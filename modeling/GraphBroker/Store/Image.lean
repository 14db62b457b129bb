import GraphBroker.Json.Shape
import GraphBroker.Store.Relational

namespace GraphBroker.Store

open Json (Codec Reader)

/-!
# Tables in a file

A file that has been created and not yet written is a store without tables.
Otherwise it holds the rows of the two tables, each with its number, as JSON.
-/

namespace Tables

/-- Row numbers. -/
def numberCodec : Codec Nat where
  write value := .number (.natural (UInt64.ofNat value))
  read
    | .number (.natural value) => .ok value.toNat
    | other => Reader.expected "a row number" other

/-- How the row of an instance is read and written. -/
def instanceRowCodec : Codec InstanceRow :=
  .record "an instance row"
    (.cons (.required "number" numberCodec) <|
     .cons (.required "guid" .text) <|
     .cons (.required "data" .text) .nil)
    (fun (number, guid, data, ()) => { number, guid, data })
    (fun row => (row.number, row.guid, row.data, ()))

/-- How the row of a binding is read and written. -/
def bindingRowCodec : Codec BindingRow :=
  .record "a binding row"
    (.cons (.required "number" numberCodec) <|
     .cons (.required "owner" numberCodec) <|
     .cons (.required "guid" .text) <|
     .cons (.required "data" .text) .nil)
    (fun (number, owner, guid, data, ()) => { number, owner, guid, data })
    (fun row => (row.number, row.owner, row.guid, row.data, ()))

/-- How tables are read and written. -/
def codec : Codec Tables :=
  .record "tables"
    (.cons (.required "instances" (.list instanceRowCodec)) <|
     .cons (.required "bindings" (.list bindingRowCodec)) <|
     .cons (.required "next_instance" numberCodec) <|
     .cons (.required "next_binding" numberCodec) .nil)
    (fun (instances, bindings, nextInstance, nextBinding, ()) =>
      { instances, bindings, nextInstance, nextBinding })
    (fun tables =>
      (tables.instances, tables.bindings, tables.nextInstance, tables.nextBinding, ()))

end Tables

namespace Relational

/-- The bytes of the file of a store. -/
def image (store : Relational) : List UInt8 :=
  match store.tables with
  | none => []
  | some tables => Text.Utf8.encode (Tables.codec.print tables)

/-- The store in the bytes of a file. -/
def ofImage (bytes : List UInt8) : Except DatabaseError Relational :=
  if bytes.isEmpty then .ok .empty
  else
    match Tables.codec.read.bytes bytes with
    | .ok tables => .ok ⟨some tables⟩
    | .error _ => .error .notADatabase

end Relational

end GraphBroker.Store
