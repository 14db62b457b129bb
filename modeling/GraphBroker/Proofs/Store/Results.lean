import GraphBroker.Proofs.Json.Records
import GraphBroker.Proofs.Keyed
import GraphBroker.Store.Graph
import Mathlib.Data.List.Forall2

namespace GraphBroker

open Json

/-!
# Results of queries

The result of a query comes as a JSON document.  It shows rows, each with a text in
some columns; whatever else stands in it is passed over.  What the store reads of such
a document is what the document shows.
-/

namespace Json.Document

/-- A member that can be passed over by who looks for another. -/
def IsOther (name : String) (member : Option String × Document) : Prop :=
  ∃ other, member.1 = some other ∧ other ≠ name ∧ member.2.whole = true

/-- A table with one member of a name, among others. -/
inductive Has (name : String) (value : Document) : Document → Prop where
  | intro {before after : List (Option String × Document)} :
      (∀ member ∈ before, IsOther name member) →
      (∀ member ∈ after, IsOther name member) →
      Has name value (.table (before ++ (some name, value) :: after) true)

end Json.Document

namespace Json.Shape

/-- A whole value under another name is passed over. -/
theorem fill_other
    {member : Member α}
    {name : String}
    {value : Document}
    (other : name ≠ member.name)
    (whole : value.whole = true)
    (slots : (Shape.cons member .nil).Slots) :
    (Shape.cons member .nil).fill name value slots = .ok slots := by
  simp only [fill, if_neg other, whole, if_true]
  rfl

/-- Members of other names are passed over. -/
theorem fillAll_others
    {member : Member α}
    {others : List (Option String × Document)}
    (other : ∀ each ∈ others, Document.IsOther member.name each)
    (rest : List (Option String × Document))
    (slots : (Shape.cons member .nil).Slots) :
    (Shape.cons member .nil).fillAll (others ++ rest) slots =
      (Shape.cons member .nil).fillAll rest slots := by
  induction others with
  | nil =>
      rfl
  | cons each more inductionHypothesis =>
      obtain ⟨key, value⟩ := each
      obtain ⟨name, rfl, different, whole⟩ := other _ List.mem_cons_self
      rw [List.cons_append, fillAll, fill_other different whole]
      exact inductionHypothesis fun each member => other each (List.mem_cons_of_mem _ member)

/-- A record of one member is read of any table that has the member. -/
theorem read_single
    {member : Member α}
    {title : String}
    {document table : Document}
    {value : α}
    (has : Document.Has member.name document table)
    (read : member.codec.read document = .ok value) :
    (Shape.cons member .nil).read title table = .ok (value, ()) := by
  cases has with
  | @intro before after others more =>
      have last := fillAll_others more [] (Slots.cons (some value) ())
      have filled : (Shape.cons member .nil).fillAll (before ++ (some member.name, document) :: after)
          (Shape.cons member .nil).empty = .ok (Slots.cons (some value) ()) := by
        rw [fillAll_others others, fillAll]
        rw [List.append_nil, fillAll] at last
        simpa [fill, empty, read] using last
      simp only [Shape.read, filled, bind, Except.bind, if_true]
      rfl

/-- A record of one member is read of any table without the member, if it may be left out. -/
theorem read_absent
    {member : Member α}
    {title : String}
    {members : List (Option String × Document)}
    {value : α}
    (others : ∀ each ∈ members, Document.IsOther member.name each)
    (absent : member.absent = some value) :
    (Shape.cons member .nil).read title (.table members true) = .ok (value, ()) := by
  have filled : (Shape.cons member .nil).fillAll members (Shape.cons member .nil).empty =
      .ok (Shape.cons member .nil).empty := by
    simpa [fillAll] using fillAll_others others [] (Shape.cons member .nil).empty
  simp only [Shape.read, filled, bind, Except.bind, if_true]
  simp [finish, empty, absent, Except.map]

end Json.Shape

namespace Store

/-! ## What a document shows -/

/-- A member of a row shows a text in a column. -/
def ShowsColumn (member : Option String × Document) (column : String × String) : Prop :=
  member.1 = some column.1 ∧ Document.Has "value" (.text column.2) member.2

/-- A row shows texts in some columns. -/
def ShowsRow (row : Document) (columns : List (String × String)) : Prop :=
  (columns.map Prod.fst).Nodup ∧
    ∃ members, row = .table members true ∧ List.Forall₂ ShowsColumn members columns

/-- A document shows rows. -/
def ShowsRows (document : Document) (rows : List (List (String × String))) : Prop :=
  ∃ results bindings items,
    Document.Has "results" results document ∧ Document.Has "bindings" bindings results ∧
      bindings = .list items true ∧ List.Forall₂ ShowsRow items rows

theorem ResultTerm.read_of_has
    {text : String}
    {document : Document}
    (has : Document.Has "value" (.text text) document) :
    ResultTerm.codec.read document = .ok ⟨text⟩ := by
  have read : (Shape.cons (.required "value" .text) .nil).read "struct SparqlTerm" document =
      .ok (text, ()) :=
    Shape.read_single has rfl
  simp only [ResultTerm.codec, Codec.record, read]
  rfl

/-- A row that shows columns is read as the values in them. -/
theorem entriesOnto_of_shows
    {members : List (Option String × Document)}
    {columns : List (String × String)}
    (shows : List.Forall₂ ShowsColumn members columns)
    (before : List (String × ResultTerm)) :
    Reader.entriesOnto ResultTerm.codec.read before members =
      .ok (before.reverse ++ columns.map fun column => (column.1, ⟨column.2⟩)) := by
  induction shows generalizing before with
  | nil =>
      simp [Reader.entriesOnto]
  | @cons member column _ _ here _ inductionHypothesis =>
      obtain ⟨key, document⟩ := member
      obtain ⟨rfl, has⟩ := here
      simp [Reader.entriesOnto, ResultTerm.read_of_has has, inductionHypothesis]

/-- What is read of a row has the texts of its columns. -/
def HasColumns (row : List (String × ResultTerm)) (columns : List (String × String)) : Prop :=
  ∀ name, row.lookup name = (columns.lookup name).map ResultTerm.mk

theorem lookup_map_snd
    (columns : List (String × String))
    (name : String) :
    (columns.map fun column => (column.1, ResultTerm.mk column.2)).lookup name =
      (columns.lookup name).map ResultTerm.mk := by
  induction columns with
  | nil =>
      rfl
  | cons column rest inductionHypothesis =>
      rw [List.map_cons, List.lookup_cons, List.lookup_cons, inductionHypothesis]
      cases name == column.1 <;> rfl

theorem ResultRows.row_of_shows
    {row : Document}
    {columns : List (String × String)}
    (shows : ShowsRow row columns) :
    ∃ entries, rowCodec.read row = .ok entries ∧ HasColumns entries columns := by
  obtain ⟨distinct, members, rfl, related⟩ := shows
  have read := entriesOnto_of_shows related []
  refine ⟨sortByKey (columns.map fun column => (column.1, ResultTerm.mk column.2)), ?_, ?_⟩
  · simp only [rowCodec, Reader.entries, read, bind, Except.bind, if_true, List.reverse_nil,
      List.nil_append]
  · intro name
    rw [Keyed.lookup_sortByKey (by simpa [Function.comp_def] using distinct)]
    exact lookup_map_snd columns name

theorem ResultRows.rows_of_shows
    {items : List Document}
    {rows : List (List (String × String))}
    (shows : List.Forall₂ ShowsRow items rows) :
    ∃ read, List.Forall₂ (fun item row => rowCodec.read item = .ok row) items read ∧
      List.Forall₂ HasColumns read rows := by
  induction shows with
  | nil =>
      exact ⟨[], .nil, .nil⟩
  | cons here _ inductionHypothesis =>
      obtain ⟨entries, read, has⟩ := row_of_shows here
      obtain ⟨others, later, related⟩ := inductionHypothesis
      exact ⟨entries :: others, .cons read later, .cons has related⟩

/-- What a document shows is read of it. -/
theorem QueryResult.read_of_shows
    {document : Document}
    {rows : List (List (String × String))}
    (shows : ShowsRows document rows) :
    ∃ result, codec.read document = .ok result ∧
      List.Forall₂ HasColumns result.results.rows rows := by
  obtain ⟨results, bindings, items, inDocument, inResults, rfl, related⟩ := shows
  obtain ⟨read, inOrder, has⟩ := ResultRows.rows_of_shows related
  have list : (Codec.list ResultRows.rowCodec).read (.list items true) = .ok read :=
    Reader.list_eq_ok_iff.mpr inOrder
  have rows : ResultRows.codec.read results = .ok ⟨read⟩ := by
    have single : (Shape.cons (.defaulted "bindings" (.list ResultRows.rowCodec) []) .nil).read
        "struct SparqlResults" results = .ok (read, ()) :=
      Shape.read_single inResults list
    simp only [ResultRows.codec, Codec.record, single]
    rfl
  have whole : codec.read document = .ok ⟨⟨read⟩⟩ := by
    have single : (Shape.cons (.required "results" ResultRows.codec) .nil).read
        "struct SparqlReply" document = .ok (⟨read⟩, ()) :=
      Shape.read_single inDocument rows
    simp only [codec, Codec.record, single]
    rfl
  exact ⟨⟨⟨read⟩⟩, whole, has⟩

namespace Graph

/-- The column that is wanted is found in rows that have it. -/
theorem column_of_rows
    {read : List (List (String × ResultTerm))}
    {rows : List (List (String × String))}
    (has : List.Forall₂ HasColumns read rows)
    {wanted : String}
    {values : List String}
    (found : (rows.map fun columns => columns.lookup wanted) = values.map some) :
    column wanted ⟨⟨read⟩⟩ = .ok values := by
  rw [column]
  induction has generalizing values with
  | nil =>
      cases values with
      | nil => rfl
      | cons value others => cases found
  | cons here _ inductionHypothesis =>
      cases values with
      | nil =>
          cases found
      | cons value others =>
          rw [List.map_cons, List.map_cons, List.cons.injEq] at found
          have present := here wanted
          rw [found.1] at present
          exact mapM_cons_eq_ok_iff.mpr
            ⟨value, others, by rw [present]; rfl, inductionHypothesis found.2, rfl⟩

/-- The texts of a column in the rows that a result shows are read of its text. -/
theorem readColumn_of_shows
    {body : String}
    {document : Document}
    (source : Source.ofText body = ⟨document, true⟩)
    {rows : List (List (String × String))}
    (shows : ShowsRows document rows)
    {wanted : String}
    {values : List String}
    (found : (rows.map fun columns => columns.lookup wanted) = values.map some) :
    readColumn wanted body = .ok values := by
  obtain ⟨result, read, has⟩ := QueryResult.read_of_shows shows
  have whole : QueryResult.codec.read.jsonText body = .ok result := by
    simp only [Reader.jsonText, Reader.source, source, read, if_true]
  rw [readColumn, whole]
  exact column_of_rows has found

end Graph

end Store

end GraphBroker
