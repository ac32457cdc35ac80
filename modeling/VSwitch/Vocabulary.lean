/-!
# Numbered vocabularies

The kernel numbers its commands, attributes and types. A vocabulary names the numbers that this
library knows and keeps room for the others, which a newer kernel may send.

* `VSwitch.Vocabulary.number` is the number of a word;
* `VSwitch.Vocabulary.ofNumber` reads a number: the first named word that has it, or else the
  nameless word;
* `VSwitch.Vocabulary.before` is the order of a vocabulary: the named words as they are listed,
  then the nameless ones by number;
* `VSwitch.Vocabulary.describe` is the wording of a word.
-/

namespace VSwitch

/-- Words with numbers of type `ρ`: finitely many named ones, and a nameless one per number. -/
class Vocabulary (α : Type) (ρ : outParam Type) where
  /-- The named words in their order, each with its name. -/
  named : List (α × String)
  /-- The number of a word. -/
  number : α → ρ
  /-- The nameless word of a number. -/
  other : ρ → α
  /-- A nameless word keeps its number. -/
  number_other : ∀ n, number (other n) = n

namespace Vocabulary

variable {α ρ : Type} [Vocabulary α ρ]

/-- The word for a number. -/
def ofNumber [BEq ρ] (n : ρ) : α :=
  match (named (α := α)).find? fun w => number w.1 == n with
  | some w => w.1
  | none => other n

/-- **No number is lost**: the word for a number has that number. -/
theorem number_ofNumber [BEq ρ] [LawfulBEq ρ] (n : ρ) : number (ofNumber n : α) = n := by
  unfold ofNumber
  split
  · rename_i w h
    simpa using List.find?_some h
  · exact number_other n

/-- The name of a word, if it has one. -/
def name? [BEq α] (a : α) : Option String :=
  ((named (α := α)).find? fun w => w.1 == a).map (·.2)

/-- The place of a word among the named ones; the nameless ones share the last place. -/
def place [BEq α] (a : α) : Nat := (named (α := α)).findIdx fun w => w.1 == a

/-- Whether a word comes before another: by place, and by number in the same place. -/
def before [BEq α] [LT ρ] [DecidableLT ρ] (a b : α) : Bool :=
  place a < place b || (place a == place b && decide (number a < number b))

/-- The wording of a word: its name, or for a nameless one its number. -/
def describe [BEq α] [ToString ρ] (a : α) : String :=
  (name? a).getD s!"UnrecognizedVariant({number a})"

/-- Words in order. -/
def sort [BEq α] [LT ρ] [DecidableLT ρ] (words : List α) : List α :=
  words.mergeSort fun a b => !before b a

end Vocabulary

end VSwitch
