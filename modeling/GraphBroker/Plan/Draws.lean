namespace GraphBroker.Plan

/-!
# Generated names

Where the caller leaves a name or a password out, the broker makes one of
letters drawn at random.  The draws come from outside, so that everything else
is a function of them.
-/

/-- A sequence of letters, each drawn from the lower-case and the upper-case alphabet. -/
structure Word (length : Nat) where
  draws : Vector (Fin 52) length

namespace Word

/-- The letter of a draw. -/
def letter (draw : Fin 52) : Char :=
  if draw.val < 26 then Char.ofNat ('a'.toNat + draw.val)
  else Char.ofNat ('A'.toNat + (draw.val - 26))

/-- The letters of a word. -/
def text (word : Word length) : String :=
  String.ofList (word.draws.toList.map letter)

/-- Draw a word letter by letter. -/
def draw {m : Type → Type} [Monad m] (pick : m (Fin 52)) (length : Nat) : m (Word length) := do
  let draws ← Vector.ofFnM fun _ => pick
  return ⟨draws⟩

end Word

/-- The words that one operation may need. -/
structure Draws where
  database : Word 16
  username : Word 8
  password : Word 24

namespace Draws

/-- Draw the words for one operation. -/
def draw {m : Type → Type} [Monad m] (pick : m (Fin 52)) : m Draws := do
  let database ← Word.draw pick 16
  let username ← Word.draw pick 8
  let password ← Word.draw pick 24
  return { database, username, password }

/-- The name of a database. -/
def databaseName (draws : Draws) : String :=
  "db" ++ draws.database.text

/-- The name of a user. -/
def userName (draws : Draws) : String :=
  "stardog" ++ draws.username.text

/-- A password. -/
def userPassword (draws : Draws) : String :=
  draws.password.text

end Draws

end GraphBroker.Plan
