import VSwitch.Family
import VSwitch.Flow.Operations
import VSwitch.Report.Failure
import VSwitch.Vport.Basic

/-!
# Reports of what the switch is made of

Families, datapaths, vports, and flows with their keys and actions.
-/

namespace VSwitch

open Report

instance : Reportable Family where
  report f := .record [field "name" f.name, field "id" f.id, field "groups" f.groups]

instance : Reportable Families := ⟨fun f => report f.toList⟩

instance : Reportable Datapath where
  report dp := .record [field "ifindex" dp.ifindex]

/-! ### Vports -/

instance : Reportable VportId := ⟨fun id => report id.number⟩

instance : Reportable VportSpec where
  report s := .record [field "name" s.name, field "type_name" s.typeName,
    field "vport_type" (Vocabulary.number s.type)]

instance : Reportable Vport where
  report v :=
    let port := match v.spec with
      | .vxlan _ port => [field "dst_port" port]
      | .netdev _ | .internal _ => []
    .record ([field "id" v.id, field "type" v.spec.typeName, field "name" v.spec.name] ++ port)

/-! ### Keys -/

instance : Reportable TunnelFields where
  report f := .record [field "tun_id" f.id, field "ipv4_src" f.source,
    field "ipv4_dst" f.destination, field "tos" f.tos, field "ttl" f.ttl,
    field "df" f.dontFragment, field "csum" f.checksum]

/-- The names of the fields that there are. -/
def TunnelPresence.names (p : TunnelPresence) : List String :=
  ([(p.id, "tun_id"), (p.source, "ipv4_src"), (p.destination, "ipv4_dst"), (p.tos, "tos"),
    (p.ttl, "ttl"), (p.dontFragment, "df"), (p.checksum, "csum")].filter (·.1)).map (·.2)

/-- The presence of the fields with the given names. -/
def TunnelPresence.ofNames (names : List String) : TunnelPresence where
  id := names.contains "tun_id"
  source := names.contains "ipv4_src"
  destination := names.contains "ipv4_dst"
  tos := names.contains "tos"
  ttl := names.contains "ttl"
  dontFragment := names.contains "df"
  checksum := names.contains "csum"

instance : Reportable TunnelPresence := ⟨fun p => report p.names⟩

instance : Reportable EthernetPair where
  report e := .record [field "src" e.source, field "dst" e.destination,
    field "exact" (e == EthernetPair.ones)]

/-- The four addresses of an Ethernet key, if it is long enough to have them. -/
def MaskedBytes.addresses? (k : MaskedBytes) : Option (List (Octets 6)) :=
  k.ethernet?.map fun (key, mask) => [key.source, key.destination, mask.source, mask.destination]

/-- The number of the port in a key, which a key may be too short for. -/
def MaskedBytes.reportPort (k : MaskedBytes) : Report := k.port?.elim .failure report

/-- The fields that every key of octets is reported with. -/
def MaskedBytes.reportAs (b : MaskedBytes) (kind : String) (ignored : Bool) : Report :=
  .record [field "ty" (Vocabulary.number b.type), field "ignored" ignored, field "kind" kind,
    field "key" b.key, field "mask" b.mask]

instance : Reportable FlowKey where
  report k :=
    match k with
    | .plain b => b.reportAs "blob" k.isIgnored
    | .inPort b => (b.reportAs "in_port" k.isIgnored).extend [("port", b.reportPort)]
    | .ethernet b =>
      let addresses := b.addresses?.map fun l =>
        Report.record (["src", "dst", "src_mask", "dst_mask"].zip (l.map report))
      (b.reportAs "ethernet" k.isIgnored).extend [field "ethernet" addresses]
    | .tunnel t => .record [field "ty" k.typeNumber, field "ignored" k.isIgnored,
        field "kind" "tunnel", field "key" t.key, field "mask" t.mask]

/-- What a key is seen as: each view is there for the keys that have it. -/
def FlowKey.views (k : FlowKey) : Report :=
  let port := match k with
    | .inPort b => b.reportPort
    | _ => .nothing
  let addresses := match k with
    | .ethernet b => report b.addresses?
    | _ => .nothing
  let tunnel := match k with
    | .tunnel t => .record [field "key" t.key, field "mask" t.mask, field "ignored" t.isIgnored,
        field "self_eq" (t.agrees t)]
    | _ => .nothing
  let octets := k.maskedBytes?.map fun b =>
    Report.record [field "ty" k.typeNumber, field "len" b.key.length, field "ignored" b.isIgnored,
      field "self_eq" (b.agrees b)]
  .record [("in_port", port), ("ethernet", addresses), ("tunnel", tunnel), field "blob" octets]

instance : Reportable Match := ⟨fun m => report m.toList⟩

/-! ### Flows -/

instance : Reportable Action where
  report
    | .output port => .record [field "output" port]
    | .setTunnel s => .record [field "set_tunnel" s.fields, field "present" s.presence]

instance : Reportable FlowStats where
  report s := .record [field "packets" s.packets, field "bytes" s.bytes, field "used" s.used?,
    field "tcp_flags" s.tcpFlags?]

instance : Reportable Flow where
  report f := .record [field "keys" f.keys, field "actions" f.actions, field "stats" f.stats?]

instance : Reportable Flow.Removal where
  report
    | .removed => .text "removed"
    | .notFound => .text "not_found"

end VSwitch
