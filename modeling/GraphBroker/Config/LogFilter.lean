import GraphBroker.Config.LogLevel
import GraphBroker.Text.Natural
import GraphBroker.Text.Split

namespace GraphBroker.Config

/-!
# Log filters

A filter is a list of directives between commas.  A directive is a level, which
holds for everything; the name of a part of the program; or such a name with its
level after an equals sign.  Of the directives whose name begins the name of the
part that logs, the one with the longest name decides.
-/

/-- How much of a part of the program is logged. -/
structure Directive where
  /-- The beginning of the names of the parts that it is about. -/
  target : String
  /-- The rank of the least important level that is logged; zero for nothing at all. -/
  threshold : Nat
  deriving Repr, DecidableEq

/-- What is logged. -/
structure LogFilter where
  directives : List Directive
  deriving Repr, DecidableEq

/-- The rank of a level: the more important, the lower. -/
def LogLevel.rank : LogLevel → Nat
  | .error => 1
  | .warn => 2
  | .info => 3
  | .debug => 4

namespace LogFilter

/-- The rank of the level that logs everything. -/
def everything : Nat := 5

/-- The rank of the level with a name, in any letter case. -/
def named? (text : String) : Option Nat :=
  let name := text.map Char.toLower
  if name = "off" then some 0
  else if name = "error" ∨ name = "" then some 1
  else if name = "warn" then some 2
  else if name = "info" then some 3
  else if name = "debug" then some 4
  else if name = "trace" then some everything
  else none

/-- The rank that a text stands for, by number or by name. -/
def rank? (text : String) : Option Nat :=
  match Text.readNatural everything text with
  | .ok rank => some rank
  | .error _ => named? text

/-- A character that may begin a directive. -/
def begins (c : Char) : Bool :=
  c.isAlphanum || 128 ≤ c.toNat || c == '-' || c == ':' || c == '_' || c == '['

/-- The directive that a text stands for. -/
def directive? (chars : List Char) : Option Directive :=
  match Text.trimChars chars with
  | [] => none
  | first :: _ =>
      if begins first then
        let target := String.ofList (chars.takeWhile (· != '='))
        match chars.dropWhile (· != '=') with
        | [] =>
            match rank? target with
            | some threshold => some ⟨"", threshold⟩
            | none => some ⟨target, everything⟩
        | _ :: level => (rank? (String.ofList level)).map (Directive.mk target)
      else
        none

/-- The filter for a configured level. -/
def ofLevel (level : LogLevel) : LogFilter :=
  ⟨[⟨"", level.rank⟩]⟩

/-- The filter that a text stands for.  Without any directive only errors are logged. -/
def parse (text : String) : Option LogFilter :=
  match ((Text.splitChars (· == ',') text.toList).filter fun piece => !piece.isEmpty).mapM directive? with
  | some [] => some (ofLevel .error)
  | some directives => some ⟨directives⟩
  | none => none

/-- The directive that decides for a part of the program: the last of those with the longest name. -/
def deciding (filter : LogFilter) (target : String) : Option Directive :=
  (filter.directives.filter fun directive => directive.target.toList.isPrefixOf target.toList).foldl
    (fun best directive =>
      match best with
      | some best =>
          if best.target.length ≤ directive.target.length then some directive else some best
      | none => some directive)
    none

/-- Lines of a level from a part of the program are logged. -/
def admits (filter : LogFilter) (target : String) (level : LogLevel) : Bool :=
  match filter.deciding target with
  | some directive => level.rank ≤ directive.threshold
  | none => false

end LogFilter

end GraphBroker.Config
