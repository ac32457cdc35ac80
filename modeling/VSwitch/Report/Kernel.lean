import VSwitch.Kernel.Program

/-!
# Reports of the use of the kernel

The calls that opened, set up and used sockets, and what a program holds.
-/

namespace VSwitch

open Report

/-- The report of a call by which a socket was opened, set up or used. -/
def SystemCall.report? : SystemCall → Option Report
  | .openSocket s domain protocol =>
    some (.list [.text "socket", report s, report domain, report protocol])
  | .bind s family port =>
    some (.list [.text "bind", report s, report family, report port, .number 0])
  | .join s group => some (.list [.text "join", report s, report group])
  | .limit s t =>
    some (.list [.text "rcvtimeo", report s, .number t.seconds.toInt, report t.micros])
  | .setNonblocking s => some (.list [.text "nonblock", report s, .flag true])
  | .send s message => some (.list [.text "send", report s, report message])
  | .device s name => some (.list [.text "ioctl", report s, .flag true, .text name])
  | .socketName _ | .getFlags _ | .openSignal _ | .duplicate _ _ | .openPoll _ | .watch _ _
  | .close _ => none

/-- The report of a call that was carried out. -/
def Deed.report? : Deed → Option Report
  | .done call => call.report?
  | .refused _ => none

/-- The socket that a call has closed. -/
def Deed.closed? : Deed → Option Nat
  | .done (.close (.socket s)) => some s
  | _ => none

instance : Reportable Client where
  report c := .record [field "pid" c.connection.port, field "families" c.families]

instance : Reportable Connection := ⟨fun c => .record [field "pid" c.port]⟩
instance : Reportable Station := ⟨fun s => .record [field "pid" s.listener.port]⟩
instance : Reportable MissStation := ⟨fun m => report m.listener⟩

/-- A program as it is after some calls: those of them that count, the sockets that they closed, and
what listeners were given. -/
instance : Reportable Program where
  report p :=
    let deeds := p.kernel.deeds.reverse
    let closed := (deeds.filterMap Deed.closed?).mergeSort (· ≤ ·)
    let events := p.noted.1.reverse
    .record ([field "sys" (deeds.filterMap Deed.report?), field "closed" closed] ++
      if events.isEmpty then [] else [field "events" events])

instance : Reportable Config where
  report c := .record [field "recv_buffer_len" c.bufferLength,
    field "recv_timeout_ms" (c.receiveTimeout?.map Duration.toMillis),
    field "autoload_module" c.autoload, field "is_default" c.isStandard]

end VSwitch
