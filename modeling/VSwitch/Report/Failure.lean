import VSwitch.Cursor
import VSwitch.Datagram
import VSwitch.Draft
import VSwitch.Failure
import VSwitch.Report.Basic

/-!
# Reports of headers and failures

A failure is reported by a label, which names its cause, and by its wording; an error number and
the header of the refused request are added where there are any.
-/

namespace VSwitch

open Report

/-! ### Headers -/

instance : Reportable MessageHeader where
  report h := .record [field "len" h.length, field "type" h.type, field "flags" h.flags,
    field "seq" h.sequence, field "pid" h.port]

instance : Reportable Datagram.Piece where
  report p := .record [field "pos" p.stop, field "msg" p.message]

instance : Reportable AttributeHeader where
  report h := .record [field "len" h.length, field "type" h.type]

instance : Reportable GenericHeader where
  report h := .record [field "cmd" h.command, field "version" h.version]

instance : Reportable DatapathHeader where
  report h := .record [field "ifindex" h.ifindex]

instance : Reportable Cursor.Relevance where
  report
    | .answer h => .record [field "valid" h]
    | .stray h => .record [field "ignorable" h]

/-! ### Failures -/

/-- The label of the error. -/
def EncodeError.label : EncodeError → String
  | .other _ => "Ser.Msg"
  | .write _ => "Ser.Io"
  | .attributeTooLong _ => "Ser.AttrTooLong"
  | .messageTooLong _ => "Ser.MsgTooLong"
  | .nulInText => "Ser.NullError"

/-- The label of the error. -/
def DecodeError.label : DecodeError → String
  | .other _ | .unsupportedVport _ | .unsupportedSet _ | .notOneSet _ => "De.Msg"
  | .truncated .. => "De.UnexpectedEOB"
  | .badLength .. => "De.BadLength"
  | .unexpectedType .. => "De.UnexpectedType"
  | .unexpectedCommand .. => "De.UnexpectedCmd"
  | .badAttributeLength .. => "De.BadAttrLength"
  | .missingAttribute _ => "De.MissingAttr"
  | .unterminated => "De.NoNullError"
  | .interiorNul => "De.InteriorNull"
  | .badText _ => "De.Utf8"
  | .unknownKey _ => "De.UnknownKeyType"
  | .unknownAction _ => "De.UnknownActionType"
  | .maskWithoutKey _ => "De.MaskWithoutKey"

/-- The label of the failure. -/
def Failure.label : Failure → String
  | .other _ | .noGroup .. => "Nl.Msg"
  | .kernel _ => "Nl.Nlmsgerr"
  | .encode e => "Nl." ++ e.label
  | .decode e => "Nl." ++ e.label
  | .socket _ => "Nl.Io"
  | .wrongPort .. => "Nl.BadPid"
  | .familyUnavailable _ => "Nl.FamilyUnavailable"
  | .wrongDatapath .. => "Nl.IfindexMismatch"
  | .truncated .. => "Nl.Truncated"
  | .closed => "Nl.Closed"
  | .overflow _ => "panic"

instance : Reportable EncodeError where
  report e := .record [field "error" e.label, field "message" e.message]

instance : Reportable DecodeError where
  report e := .record [field "error" e.label, field "message" e.message]

/-- Whoever looks at a number that there is not has nothing to tell. -/
instance {α : Type} [Reportable α] : Reportable (Except Overflow α) where
  report
    | .ok a => report a
    | .error _ => Report.failure

instance : Reportable Failure where
  report e := report (do
    let number := ((← e.errno?).map (field "errno")).toList
    let request := match e with
      | .kernel r => [field "nlmsg" r.request]
      | _ => []
    return Report.record ([field "error" e.label, field "message" (← e.message)] ++ number ++
      request) : Except Overflow Report)

/-- A failure in full: its label, what is behind it and what it counts as; `numbers` are error
numbers that the kernel may have answered with. -/
def Failure.account (e : Failure) (numbers : List Int32) : Report :=
  report (do
    return Report.record [field "kind" e.label, field "message" (← e.message),
      field "source" (← e.source?), field "errno" (← e.errno?),
      field "is_errno" (← numbers.mapM fun n => e.isKernelErrno n),
      field "already_exists" (← e.isAlreadyExists)] : Except Overflow Report)

instance {ε α : Type} [Reportable ε] [Reportable α] : Reportable (Except ε α) where
  report
    | .ok a => report a
    | .error e => report e

instance : Reportable KernelError where
  report e := report (do
    return Report.record [field "error_field" e.code, field "errno" (← e.errno),
      field "nlmsg" e.request, field "display" (← e.message)] : Except Overflow Report)

/-! ### Calls on a draft, and lines of the journal -/

instance : Reportable Put.Mark where
  report
    | .reserved pos => .record [field "grow_pos" pos]
    | .ended length none => .record [field "len" length]
    | .ended length (some e) => (report e).extend [field "len" length]

instance : Reportable Level where
  report
    | .debug => .text "DEBUG"
    | .warn => .text "WARN"
    | .error => .text "ERROR"

instance : Reportable Line := ⟨fun l => .list [report l.level, l.text.elim Report.failure .text]⟩

end VSwitch
