import VSwitch.Flags
import VSwitch.Groups
import VSwitch.Report.Basic
import VSwitch.Vocabulary

/-!
# Reports of words, flags and groups

What is told of the words of a vocabulary, of a set of flags and of a set of multicast groups.
-/

namespace VSwitch

open Report

section Words

variable {α ρ : Type} [Vocabulary α ρ] [BEq α] [ToString ρ] [Reportable ρ]

/-- The report of a word. -/
def Vocabulary.reportWord (a : α) : Report :=
  .record [field "variant" (describe a), field "raw" (number a),
    field "unrecognized" (name? a).isNone]

/-- The report of words: each of them, and the numbers of all in order. -/
def Vocabulary.reportWords [LT ρ] [DecidableLT ρ] (words : List α) : Report :=
  .record [field "items" (words.map reportWord), field "sorted" ((sort words).map number)]

end Words

/-- The report of a set of flags. -/
def FlagTable.reportBits (t : FlagTable) (bits : UInt32) : Report :=
  .record [field "bits" bits, field "valid" (t.isValid bits), field "truncated" (t.truncate bits),
    field "names" (t.names bits), field "empty" (bits == 0), field "all" (t.isAll bits)]

/-- The report of the flags of a message, with the two sets of flags that requests have. -/
def reportMessageFlags (bits : UInt16) : Report :=
  (messageFlags.reportBits bits.toUInt32).extend
    [field "contains_request" (hasFlags bits requestFlags),
      field "contains_dump" (hasFlags bits dumpFlags)]

instance : Reportable Groups where
  report g := .record [field "groups" g.numbers, field "empty" g.isEmpty,
    field "equals_none" (g == Groups.empty)]

end VSwitch
