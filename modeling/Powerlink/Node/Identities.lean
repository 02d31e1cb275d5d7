import Powerlink.Cn.Identity
import Powerlink.Node.Bus

/-! # Identities and addresses on the bus

A managing node learns the identity and the MAC address of a controlled node from an IdentResponse.
`introduced_origin` says that a controlled node with this node id has sent it.  So where the
controlled nodes keep the identity that they are configured with, the managing node records no other
one (`configured_identities_recorded`). -/

namespace Powerlink

namespace CnRun

variable {τ : Type} [ObjectDictionaryStorage τ] {od : ObjectDictionary τ} {r r' : CnRun τ}

/-- The node was created with the dictionary. -/
def StartedOn (od : ObjectDictionary τ) (r : CnRun τ) : Prop :=
  ∃ mac calls, Runs.run (Runs.partialStep step) (start od mac) calls = some r

theorem StartedOn.step {call : CnCall} (h : r.StartedOn od) (hstep : r.step call = some r') :
    r'.StartedOn od := by
  obtain ⟨mac, calls, hrun⟩ := h
  refine ⟨mac, calls ++ [call], ?_⟩
  rw [Runs.run_append, hrun]
  exact hstep

/-- A fixed identity stays what it was configured as. -/
theorem StartedOn.identified (h : r.StartedOn od) (hfixed : od.FixedIdentity) :
    r.Identified od := by
  obtain ⟨mac, calls, hrun⟩ := h
  have hlast := (identified_always hfixed mac calls).last
  rw [hrun] at hlast
  exact hlast

end CnRun

namespace Bus

variable {σ τ ι : Type} [ObjectDictionaryStorage σ] [ObjectDictionaryStorage τ] [DecidableEq ι]
  {c : Configuration σ τ ι}

/-- An IdentResponse that the managing node has heard was sent by a controlled node. -/
theorem introduced_origin (hc : Networks.Reachable c) {asnd : ASndFrame}
    {payload : IdentResponsePayload} (h : Knowledge.Introduced (mn c).Heard asnd payload) :
    ∃ i x bytes soa, x ∈ (cn c i).returned ∧ x.action = .sendFrame bytes ∧
      deserializeFrame bytes = .ok (.aSnd asnd) ∧
      x.after.nodeId = (cn c i).context.nodeId ∧
      (x.after.buildIdentResponse soa).overWire = .aSnd asnd := by
  obtain ⟨bytes, hsaid, hread⟩ := said_of_heard hc h.heard
  obtain ⟨frame, -, hread', -, hfrom, -⟩ |
    ⟨i, x, input, frame, hx, hsent, hbytes, hread', hnode, hsends⟩ := origin hc hsaid
  · have hframe : frame.overWire = .aSnd asnd := Except.ok.inj (hread'.symm.trans hread)
    exact absurd h.payload (hfrom.noAnswer.ident hframe h.service payload)
  · have hframe : frame.overWire = .aSnd asnd := Except.ok.inj (hread'.symm.trans hread)
    cases frame with
    | aSnd sent =>
        have hservice : sent.serviceId = .identResponse := by
          rw [← h.service, ← PowerlinkFrame.aSnd.inj hframe]
        obtain ⟨soa, hbuilt⟩ := hsends.identifiesItself sent rfl hservice
        refine ⟨i, x, bytes, soa, hx, ?_, hread, hnode, ?_⟩
        · rw [hsent, hbytes]
        · rw [← hbuilt, hframe]
    | _ => cases hframe

/-- The controlled nodes with the node id are configured with the identity, and keep it. -/
def ConfiguredAs (c : Configuration σ τ ι) (nodeId : NodeId) (identity : CnIdentity) : Prop :=
  ∀ i, (cn c i).context.nodeId = nodeId →
    ∃ od, (cn c i).StartedOn od ∧ od.FixedIdentity ∧ od.identity = identity

/-- Where the controlled nodes keep the identity that they are configured with, the managing node
records no other one, whatever is sent and received. -/
theorem configured_identities_recorded :
    Networks.Throughout (fun c : Configuration σ τ ι => ∀ nodeId info identity recorded,
      ConfiguredAs c nodeId identity → (mn c).context.nodeInfo.get? nodeId = some info →
        info.identity = some recorded → recorded = identity) := by
  intro c hc nodeId info identity recorded hconfigured hget hrecorded
  have hbacked : (mn c).Backed := mn_of_throughout hc ApiRun.backed_throughout
  obtain ⟨asnd, payload, hintroduced, rfl, rfl⟩ :=
    hbacked.identities nodeId info recorded hget hrecorded
  obtain ⟨i, x, bytes, soa, hx, haction, hread, hnode, hbuilt⟩ := introduced_origin hc hintroduced
  have hsource : asnd.source = x.after.nodeId := by
    rw [← PowerlinkFrame.aSnd.inj hbuilt]
    rfl
  obtain ⟨od, hstarted, hfixed, rfl⟩ := hconfigured i (hnode.symm.trans hsource.symm)
  obtain ⟨shown, hshown, hidentity⟩ :=
    (hstarted.identified hfixed).shows x hx bytes asnd haction hread hintroduced.service
  rw [← Except.ok.inj (hshown.symm.trans hintroduced.payload)]
  exact hidentity

end Bus

end Powerlink
