import Baleen.Evtchn.Model

/-!
# Consistency of the event channels

What each transition does to the port tables, and the invariant: free ports carry no
signal, connected ports point back at each other, half-open ports name a slot, and a
virtual IRQ of a vCPU is bound at one port.  An index written back as a 32-bit port
names the cell it was found at only while a table has at most `2^32` ports.
-/

namespace Baleen.Evtchn.System

variable {s s' : System} {dom remote : DomId} {port remotePort : Port} {c : EventChannel}

theorem chan_cases (s : System) (dom : DomId) (port : Port) :
    (∃ c, s.chan? dom port = some c ∧ s.chan dom port = .ok c) ∨
      (s.chan? dom port = none ∧ ∃ e, s.chan dom port = .error e) := by
  unfold chan chan? domain Grid.get?
  cases s.domains[dom.toNat]? with
  | none => exact .inr ⟨rfl, _, rfl⟩
  | some row =>
      simp only [Option.bind_some]
      cases row[port.toNat]? with
      | none => exact .inr ⟨rfl, _, rfl⟩
      | some c => exact .inl ⟨c, rfl, rfl⟩

theorem chan_of_chan? (found : s.chan? dom port = some c) : s.chan dom port = .ok c := by
  rcases chan_cases s dom port with ⟨c', found', same⟩ | ⟨missing, -⟩
  · rw [same]
    simpa [found] using found'.symm
  · simp [found] at missing

theorem chan?_setChan (found : s.chan? dom port = some c) (c' : EventChannel) (d : DomId)
    (q : Port) :
    (s.setChan dom port c').chan? d q = if dom = d ∧ port = q then some c' else s.chan? d q := by
  have found : s.domains.get? dom.toNat port.toNat = some c := found
  unfold chan? setChan
  rw [Grid.get?_set, found]
  simp only [UInt16.toNat_inj, UInt32.toNat_inj]
  rfl

@[simp]
theorem domainCount_setChan (s : System) (dom : DomId) (port : Port) (c : EventChannel) :
    (s.setChan dom port c).domainCount = s.domainCount := by
  simp [setChan, domainCount]

@[simp]
theorem portCount_setChan (s : System) (dom d : DomId) (port : Port) (c : EventChannel) :
    (s.setChan dom port c).portCount d = s.portCount d := by
  simp [setChan, portCount]

theorem stateOf_eq_some {st : PortState} :
    s.stateOf dom port = some st ↔ ∃ c, s.chan? dom port = some c ∧ c.state = st := by
  simp [stateOf]

/-- Equality of the table sizes. -/
structure SameSizes (s s' : System) : Prop where
  domainCount : s'.domainCount = s.domainCount
  portCount : ∀ d, s'.portCount d = s.portCount d

theorem SameSizes.refl (s : System) : SameSizes s s := ⟨rfl, fun _ => rfl⟩

theorem SameSizes.trans {s'' : System} (first : SameSizes s s') (second : SameSizes s' s'') :
    SameSizes s s'' where
  domainCount := second.domainCount.trans first.domainCount
  portCount d := (second.portCount d).trans (first.portCount d)

theorem SameSizes.setChan (s : System) (dom : DomId) (port : Port) (c : EventChannel) :
    SameSizes s (s.setChan dom port c) := ⟨by simp, fun _ => by simp⟩

theorem SameSizes.ports (same : SameSizes s s') (d : DomId) : s'.ports d = s.ports d := by
  unfold System.ports
  rw [same.portCount]

theorem domain_cases (s : System) (dom : DomId) :
    (dom.toNat < s.domainCount ∧ ∃ row, s.domain dom = .ok row) ∨
      ∃ e, s.domain dom = .error e := by
  unfold domain
  cases found : s.domains[dom.toNat]? with
  | none => exact .inr ⟨_, rfl⟩
  | some row => exact .inl ⟨(List.getElem?_eq_some_iff.mp found).1, row, rfl⟩

theorem allocUnbound_cases (s : System) (dom remote : DomId) :
    (∃ port c, remote.toNat < s.domainCount ∧ s.findFree dom = .ok port ∧
        s.chan? dom port = some c ∧ allocUnbound dom remote s =
          (.ok port, s.setChan dom port { c with state := .unbound remote })) ∨
      ∃ e, allocUnbound dom remote s = (.error e, s) := by
  rcases domain_cases s remote with ⟨known, row, found⟩ | ⟨e, failed⟩
  case inr => exact .inr ⟨e, by simp [allocUnbound, failed]⟩
  cases search : s.findFree dom with
  | error e => exact .inr ⟨e, by simp [allocUnbound, found, search]⟩
  | ok port =>
      rcases chan_cases s dom port with ⟨c, present, ok⟩ | ⟨-, e, failed⟩
      · exact .inl ⟨port, c, known, rfl, present, by simp [allocUnbound, found, search, ok]⟩
      · exact .inr ⟨e, by simp [allocUnbound, found, search, failed]⟩

theorem bindInterdomain_cases (s : System) (dom remote : DomId) (remotePort : Port) :
    (∃ port peer, s.chan? remote remotePort = some peer ∧ peer.state = .unbound dom ∧
        s.findFree dom = .ok port ∧ bindInterdomain dom remote remotePort s =
          (.ok port, (s.setChan dom port ⟨.interdomain remote remotePort, false, false⟩).setChan
            remote remotePort ⟨.interdomain dom port, false, false⟩)) ∨
      ∃ e, bindInterdomain dom remote remotePort s = (.error e, s) := by
  rcases chan_cases s remote remotePort with ⟨peer, present, ok⟩ | ⟨-, e, failed⟩
  case inr => exact .inr ⟨e, by simp [bindInterdomain, failed]⟩
  by_cases waiting : peer.state = .unbound dom
  case neg => exact .inr ⟨.wrongState, by simp [bindInterdomain, ok, awaits, waiting]⟩
  cases search : s.findFree dom with
  | error e => exact .inr ⟨e, by simp [bindInterdomain, ok, awaits, waiting, search]⟩
  | ok port =>
      exact .inl ⟨port, peer, present, waiting, rfl,
        by simp [bindInterdomain, ok, awaits, waiting, search]⟩

/-- No port of the domain is bound to the virtual IRQ. -/
def Unbound (s : System) (dom : DomId) (vcpu : Vcpu) (virq : Virq) : Prop :=
  ∀ q, s.stateOf dom q ≠ some (.virq vcpu virq)

theorem bindVirq_cases (s : System) (dom : DomId) (vcpu : Vcpu) (virq : Virq) :
    (∃ port c, s.Unbound dom vcpu virq ∧ s.findFree dom = .ok port ∧
        s.chan? dom port = some c ∧ bindVirq dom vcpu virq s =
          (.ok port, s.setChan dom port { c with state := .virq vcpu virq })) ∨
      ∃ e, bindVirq dom vcpu virq s = (.error e, s) := by
  rcases lookup : s.domain dom with e | row
  · exact .inr ⟨e, by simp [bindVirq, lookup]⟩
  by_cases taken : (row.any fun c => c.state = .virq vcpu virq) = true
  · exact .inr ⟨.virqInUse, by
      simp only [bindVirq, Op.query_bind_apply, lookup, Op.ensure_bind_apply, taken, Bool.not_true,
        Bool.false_eq_true, if_false]⟩
  have unbound : s.Unbound dom vcpu virq := by
    intro q bound
    obtain ⟨c, present, state⟩ := stateOf_eq_some.mp bound
    unfold domain at lookup
    cases found : s.domains[dom.toNat]? with
    | none => simp [found] at lookup
    | some row' =>
        simp only [found, Except.ok.injEq] at lookup
        subst lookup
        simp only [chan?, Grid.get?, found, Option.bind_some] at present
        exact taken (List.any_eq_true.mpr ⟨c, List.mem_of_getElem? present, by simp [state]⟩)
  have free : (row.any fun c => c.state = .virq vcpu virq) = false := by simpa using taken
  cases search : s.findFree dom with
  | error e => exact .inr ⟨e, by simp only [bindVirq, Op.query_bind_apply, lookup,
      Op.ensure_bind_apply, free, Bool.not_false, if_true, search]⟩
  | ok port =>
      rcases chan_cases s dom port with ⟨c, present, ok⟩ | ⟨-, e, failed⟩
      · exact .inl ⟨port, c, unbound, rfl, present, by
          simp only [bindVirq, Op.query_bind_apply, lookup, Op.ensure_bind_apply, free,
            Bool.not_false, if_true, search, ok, Op.modify_bind_apply, Op.pure_apply]⟩
      · exact .inr ⟨e, by simp only [bindVirq, Op.query_bind_apply, lookup,
          Op.ensure_bind_apply, free, Bool.not_false, if_true, search, failed]⟩

theorem bindIpi_cases (s : System) (dom : DomId) (vcpu : Vcpu) :
    (∃ port c, s.findFree dom = .ok port ∧ s.chan? dom port = some c ∧ bindIpi dom vcpu s =
          (.ok port, s.setChan dom port { c with state := .ipi vcpu })) ∨
      ∃ e, bindIpi dom vcpu s = (.error e, s) := by
  cases search : s.findFree dom with
  | error e => exact .inr ⟨e, by simp [bindIpi, search]⟩
  | ok port =>
      rcases chan_cases s dom port with ⟨c, present, ok⟩ | ⟨-, e, failed⟩
      · exact .inl ⟨port, c, rfl, present, by simp [bindIpi, search, ok]⟩
      · exact .inr ⟨e, by simp [bindIpi, search, failed]⟩

theorem close_cases (s : System) (dom : DomId) (port : Port) :
    (∃ c, s.chan? dom port = some c ∧ c.state ≠ .free ∧ close dom port s =
          (.ok (), (s.disconnect dom c).setChan dom port .FREE)) ∨
      ((∀ c, s.chan? dom port = some c → c.state = .free) ∧
        ∃ e, close dom port s = (.error e, s)) := by
  rcases chan_cases s dom port with ⟨c, present, ok⟩ | ⟨missing, e, failed⟩
  · by_cases free : c.state = .free
    · exact .inr ⟨by simp [present, free], .wrongState, by simp [close, ok, free]⟩
    · exact .inl ⟨c, present, free, by simp [close, ok, free]⟩
  · exact .inr ⟨by simp [missing], e, by simp [close, failed]⟩

theorem setMasked_cases (s : System) (dom : DomId) (port : Port) (value : Bool) :
    (∃ c, s.chan? dom port = some c ∧ c.state ≠ .free ∧ setMasked dom port value s =
          (.ok (), s.setChan dom port { c with masked := value })) ∨
      ∃ e, setMasked dom port value s = (.error e, s) := by
  rcases chan_cases s dom port with ⟨c, present, ok⟩ | ⟨-, e, failed⟩
  · by_cases free : c.state = .free
    · exact .inr ⟨.wrongState, by simp [setMasked, ok, free]⟩
    · exact .inl ⟨c, present, free, by simp [setMasked, ok, free]⟩
  · exact .inr ⟨e, by simp [setMasked, failed]⟩

theorem consume_cases (s : System) (dom : DomId) (port : Port) :
    (∃ c, s.chan? dom port = some c ∧ c.state ≠ .free ∧ consume dom port s =
          (.ok c.pending, s.setChan dom port { c with pending := false })) ∨
      ∃ e, consume dom port s = (.error e, s) := by
  rcases chan_cases s dom port with ⟨c, present, ok⟩ | ⟨-, e, failed⟩
  · by_cases free : c.state = .free
    · exact .inr ⟨.wrongState, by simp [consume, ok, free]⟩
    · exact .inl ⟨c, present, free, by simp [consume, ok, free]⟩
  · exact .inr ⟨e, by simp [consume, failed]⟩

theorem sendTarget_eq (found : s.chan? dom port = some c) :
    s.sendTarget dom port =
      match c.state with
      | .interdomain remote remotePort => some (remote, remotePort)
      | .ipi _ => some (dom, port)
      | _ => none := by
  cases state : c.state <;> simp only [sendTarget, chan_of_chan? found, state]

theorem raise_eq (found : s.chan? dom port = some c) :
    s.raise dom port = s.setChan dom port { c with pending := true } := by
  rw [raise, chan_of_chan? found]

theorem send_cases (s : System) (dom : DomId) (port : Port) :
    (∃ target, s.sendTarget dom port = some target ∧
        send dom port s = (.ok (), s.raise target.1 target.2)) ∨
      ∃ e, send dom port s = (.error e, s) := by
  rcases chan_cases s dom port with ⟨c, present, ok⟩ | ⟨-, e, failed⟩
  · cases target : s.sendTarget dom port with
    | none => exact .inr ⟨.wrongState, by simp [send, ok, target]⟩
    | some t => exact .inl ⟨t, rfl, by simp [send, ok, target]⟩
  · exact .inr ⟨e, by simp [send, failed]⟩

theorem raiseVirq_cases (s : System) (dom : DomId) (vcpu : Vcpu) (virq : Virq) :
    (∃ port, s.virqPort dom vcpu virq = .ok port ∧
        raiseVirq dom vcpu virq s = (.ok port, s.raise dom port)) ∨
      ∃ e, raiseVirq dom vcpu virq s = (.error e, s) := by
  cases search : s.virqPort dom vcpu virq with
  | error e => exact .inr ⟨e, by simp [raiseVirq, search]⟩
  | ok port => exact .inl ⟨port, rfl, by simp [raiseVirq, search]⟩

/-- Every index of a port table is a port. -/
def Bounded (s : System) : Prop := ∀ d, s.portCount d ≤ 2 ^ 32

theorem Bounded.of_sizes (bounded : s.Bounded) (same : SameSizes s s') : s'.Bounded := by
  intro d
  rw [same.portCount]
  exact bounded d

/-- An index found in a port table, written back as a port. -/
theorem found_at {test : EventChannel → Bool} {row : List EventChannel} {i : Nat}
    (bounded : s.Bounded) (here : s.domains[dom.toNat]? = some row)
    (found : row.findIdx? test = some i) :
    ∃ c, s.chan? dom (UInt32.ofNat i) = some c ∧ test c = true := by
  obtain ⟨inside, passed, -⟩ := List.findIdx?_eq_some_iff_getElem.mp found
  have small : i < 2 ^ 32 := by
    have width : s.portCount dom = row.length := by simp [portCount, Grid.width, here]
    have := bounded dom
    omega
  refine ⟨row[i], ?_, passed⟩
  simp [chan?, Grid.get?, here, Words.toNat_ofNat32 small, inside]

theorem findFree_free (bounded : s.Bounded) (found : s.findFree dom = .ok port) :
    ∃ c, s.chan? dom port = some c ∧ c.state = .free := by
  unfold findFree domain at found
  cases here : s.domains[dom.toNat]? with
  | none => simp [here] at found
  | some row =>
      simp only [here] at found
      cases search : row.findIdx? fun c => c.state = .free with
      | none => simp [search] at found
      | some i =>
          simp only [search, Except.ok.injEq] at found
          subst found
          obtain ⟨c, present, free⟩ := found_at bounded here search
          exact ⟨c, present, by simpa using free⟩

theorem virqPort_bound (bounded : s.Bounded) {vcpu : Vcpu} {virq : Virq}
    (found : s.virqPort dom vcpu virq = .ok port) :
    ∃ c, s.chan? dom port = some c ∧ c.state = .virq vcpu virq := by
  unfold virqPort domain at found
  cases here : s.domains[dom.toNat]? with
  | none => simp [here] at found
  | some row =>
      simp only [here] at found
      cases search : row.findIdx? fun c => c.state = .virq vcpu virq with
      | none => simp [search] at found
      | some i =>
          simp only [search, Except.ok.injEq] at found
          subst found
          obtain ⟨c, present, bound⟩ := found_at bounded here search
          exact ⟨c, present, by simpa using bound⟩

structure Consistent (s : System) : Prop where
  quiet : ∀ {d p c}, s.chan? d p = some c → c.state = .free → c.pending = false ∧ c.masked = false
  reciprocal : ∀ {d p c r q}, s.chan? d p = some c → c.state = .interdomain r q →
    ∃ c', s.chan? r q = some c' ∧ c'.state = .interdomain d p
  known : ∀ {d p c r}, s.chan? d p = some c → c.state = .unbound r → r.toNat < s.domainCount
  unique : ∀ {d p q c c' v i}, s.chan? d p = some c → s.chan? d q = some c' →
    c.state = .virq v i → c'.state = .virq v i → p = q

theorem Consistent.new (numDomains portsPerDomain : Nat) :
    (System.new numDomains portsPerDomain).Consistent := by
  have free : ∀ {d p c}, (System.new numDomains portsPerDomain).chan? d p = some c →
      c = .FREE := by
    intro d p c present
    simp only [chan?, System.new, Grid.get?_fill] at present
    split_ifs at present
    simpa using present.symm
  exact {
    quiet := by
      intro d p c present _
      rw [free present]
      exact ⟨rfl, rfl⟩
    reciprocal := by
      intro d p c r q present state
      rw [free present] at state
      cases state
    known := by
      intro d p c r present state
      rw [free present] at state
      cases state
    unique := by
      intro d p q c c' v i present _ state
      rw [free present] at state
      cases state }

namespace Consistent

/-- A rewrite of one channel that keeps its state, not a free one. -/
theorem remark (consistent : s.Consistent) (found : s.chan? dom port = some c)
    {c' : EventChannel} (same : c'.state = c.state) (busy : c.state ≠ .free) :
    (s.setChan dom port c').Consistent := by
  have old : ∀ {d p x}, (s.setChan dom port c').chan? d p = some x →
      ∃ y, s.chan? d p = some y ∧ y.state = x.state := by
    intro d p x present
    rw [chan?_setChan found] at present
    split_ifs at present with here
    · obtain ⟨rfl, rfl⟩ := here
      cases present
      exact ⟨c, found, same.symm⟩
    · exact ⟨x, present, rfl⟩
  have new : ∀ {d p y}, s.chan? d p = some y →
      ∃ x, (s.setChan dom port c').chan? d p = some x ∧ x.state = y.state := by
    intro d p y present
    rw [chan?_setChan found]
    split_ifs with here
    · obtain ⟨rfl, rfl⟩ := here
      rw [found] at present
      cases present
      exact ⟨c', rfl, same⟩
    · exact ⟨y, present, rfl⟩
  exact {
    quiet := by
      intro d p x present free
      rw [chan?_setChan found] at present
      split_ifs at present
      · cases present
        exact absurd (same.symm.trans free) busy
      · exact consistent.quiet present free
    reciprocal := by
      intro d p x r q present state
      obtain ⟨y, before, same⟩ := old present
      obtain ⟨z, peer, back⟩ := consistent.reciprocal before (same.trans state)
      obtain ⟨w, peer', same'⟩ := new peer
      exact ⟨w, peer', same'.trans back⟩
    known := by
      intro d p x r present state
      obtain ⟨y, before, same⟩ := old present
      rw [domainCount_setChan]
      exact consistent.known before (same.trans state)
    unique := by
      intro d p q x x' v i present present' state state'
      obtain ⟨y, before, same⟩ := old present
      obtain ⟨y', before', same'⟩ := old present'
      exact consistent.unique before before' (same.trans state) (same'.trans state') }

/-- A port moves to a state that involves no other port. -/
theorem rewrite (consistent : s.Consistent) (found : s.chan? dom port = some c)
    {c' : EventChannel} (alone : ∀ r q, c.state ≠ .interdomain r q)
    (alone' : ∀ r q, c'.state ≠ .interdomain r q)
    (quiet : c'.state = .free → c'.pending = false ∧ c'.masked = false)
    (known : ∀ r, c'.state = .unbound r → r.toNat < s.domainCount)
    (unique : ∀ v i, c'.state = .virq v i → s.Unbound dom v i) :
    (s.setChan dom port c').Consistent where
  quiet := by
    intro d p x present free
    rw [chan?_setChan found] at present
    split_ifs at present
    · cases present
      exact quiet free
    · exact consistent.quiet present free
  reciprocal := by
    intro d p x r q present state
    rw [chan?_setChan found] at present
    split_ifs at present with here
    · cases present
      exact absurd state (alone' r q)
    · obtain ⟨z, peer, back⟩ := consistent.reciprocal present state
      refine ⟨z, ?_, back⟩
      rw [chan?_setChan found, if_neg, peer]
      rintro ⟨rfl, rfl⟩
      rw [found] at peer
      cases peer
      exact alone d p back
  known := by
    intro d p x r present state
    rw [domainCount_setChan]
    rw [chan?_setChan found] at present
    split_ifs at present
    · cases present
      exact known r state
    · exact consistent.known present state
  unique := by
    intro d p q x x' v i present present' state state'
    rw [chan?_setChan found] at present present'
    by_cases here : dom = d ∧ port = p
    · by_cases here' : dom = d ∧ port = q
      · exact here.2.symm.trans here'.2
      · rw [if_pos here] at present
        rw [if_neg here'] at present'
        cases present
        obtain ⟨rfl, rfl⟩ := here
        exact absurd (stateOf_eq_some.mpr ⟨x', present', state'⟩) (unique v i state q)
    · rw [if_neg here] at present
      by_cases here' : dom = d ∧ port = q
      · rw [if_pos here'] at present'
        cases present'
        obtain ⟨rfl, rfl⟩ := here'
        exact absurd (stateOf_eq_some.mpr ⟨x, present, state⟩) (unique v i state' p)
      · rw [if_neg here'] at present'
        exact consistent.unique present present' state state'

end Consistent

/-- The tables after two ports were connected to each other. -/
theorem chan?_connect {peer : EventChannel} (found : s.chan? dom port = some c)
    (free : c.state = .free) (waiting : s.chan? remote remotePort = some peer)
    (awaits : peer.state = .unbound dom) (d : DomId) (q : Port) :
    ((s.setChan dom port ⟨.interdomain remote remotePort, false, false⟩).setChan
      remote remotePort ⟨.interdomain dom port, false, false⟩).chan? d q =
      if remote = d ∧ remotePort = q then some ⟨.interdomain dom port, false, false⟩
      else if dom = d ∧ port = q then some ⟨.interdomain remote remotePort, false, false⟩
      else s.chan? d q := by
  have apart : ¬(dom = remote ∧ port = remotePort) := by
    rintro ⟨rfl, rfl⟩
    rw [found] at waiting
    cases waiting
    rw [free] at awaits
    cases awaits
  have waiting₁ : (s.setChan dom port ⟨.interdomain remote remotePort, false, false⟩).chan?
      remote remotePort = some peer := by
    rw [chan?_setChan found, if_neg apart, waiting]
  rw [chan?_setChan waiting₁, chan?_setChan found]

namespace Consistent

/-- Two ports are connected to each other. -/
theorem connect (consistent : s.Consistent) {peer : EventChannel}
    (found : s.chan? dom port = some c) (free : c.state = .free)
    (waiting : s.chan? remote remotePort = some peer) (awaits : peer.state = .unbound dom) :
    ((s.setChan dom port ⟨.interdomain remote remotePort, false, false⟩).setChan
      remote remotePort ⟨.interdomain dom port, false, false⟩).Consistent := by
  have apart : ¬(dom = remote ∧ port = remotePort) := by
    rintro ⟨rfl, rfl⟩
    rw [found] at waiting
    cases waiting
    rw [free] at awaits
    cases awaits
  have read := chan?_connect found free waiting awaits
  exact {
    quiet := by
      intro d p x present state
      rw [read] at present
      split_ifs at present
      · cases present; cases state
      · cases present; cases state
      · exact consistent.quiet present state
    reciprocal := by
      intro d p x r q present state
      rw [read] at present
      split_ifs at present with atRemote atDom
      · cases present
        cases state
        obtain ⟨rfl, rfl⟩ := atRemote
        refine ⟨⟨.interdomain remote remotePort, false, false⟩, ?_, rfl⟩
        rw [read, if_neg (fun here => apart ⟨here.1.symm, here.2.symm⟩), if_pos ⟨rfl, rfl⟩]
      · cases present
        cases state
        obtain ⟨rfl, rfl⟩ := atDom
        refine ⟨⟨.interdomain dom port, false, false⟩, ?_, rfl⟩
        rw [read, if_pos ⟨rfl, rfl⟩]
      · obtain ⟨z, peer', back⟩ := consistent.reciprocal present state
        refine ⟨z, ?_, back⟩
        rw [read, if_neg, if_neg, peer']
        · rintro ⟨rfl, rfl⟩
          rw [found] at peer'
          cases peer'
          rw [free] at back
          cases back
        · rintro ⟨rfl, rfl⟩
          rw [waiting] at peer'
          cases peer'
          rw [awaits] at back
          cases back
    known := by
      intro d p x r present state
      rw [domainCount_setChan, domainCount_setChan]
      rw [read] at present
      split_ifs at present
      · cases present; cases state
      · cases present; cases state
      · exact consistent.known present state
    unique := by
      intro d p q x x' v i present present' state state'
      rw [read] at present present'
      split_ifs at present present' <;>
        first
        | exact consistent.unique present present' state state'
        | (cases present; cases state)
        | (cases present'; cases state') }

/-- A closed port frees itself and leaves its peer half-open. -/
theorem close (consistent : s.Consistent) (found : s.chan? dom port = some c)
    (known : dom.toNat < s.domainCount) :
    ((s.disconnect dom c).setChan dom port .FREE).Consistent := by
  cases state : c.state with
  | interdomain r q =>
      obtain ⟨peer, present, back⟩ := consistent.reciprocal found state
      have first : s.disconnect dom c = s.setChan r q ⟨.unbound dom, false, false⟩ := by
        simp [disconnect, state]
      have read : ∀ d p, ((s.disconnect dom c).setChan dom port .FREE).chan? d p =
          if dom = d ∧ port = p then some .FREE
          else if r = d ∧ q = p then some ⟨.unbound dom, false, false⟩ else s.chan? d p := by
        intro d p
        obtain ⟨y, here⟩ : ∃ y, (s.disconnect dom c).chan? dom port = some y := by
          rw [first, chan?_setChan present]
          split_ifs
          · exact ⟨_, rfl⟩
          · exact ⟨c, found⟩
        rw [chan?_setChan here, first, chan?_setChan present]
      exact {
        quiet := by
          intro d p x present' free
          rw [read] at present'
          split_ifs at present'
          · cases present'; exact ⟨rfl, rfl⟩
          · cases present'; cases free
          · exact consistent.quiet present' free
        reciprocal := by
          intro d p x r' q' present' state'
          rw [read] at present'
          split_ifs at present' with closed halfOpen
          · cases present'; cases state'
          · cases present'; cases state'
          · obtain ⟨z, peer', back'⟩ := consistent.reciprocal present' state'
            refine ⟨z, ?_, back'⟩
            rw [read, if_neg, if_neg, peer']
            · rintro ⟨rfl, rfl⟩
              rw [present] at peer'
              cases peer'
              rw [back] at back'
              cases back'
              exact closed ⟨rfl, rfl⟩
            · rintro ⟨rfl, rfl⟩
              rw [found] at peer'
              cases peer'
              rw [state] at back'
              cases back'
              exact halfOpen ⟨rfl, rfl⟩
        known := by
          intro d p x r' present' state'
          rw [first, domainCount_setChan, domainCount_setChan]
          rw [read] at present'
          split_ifs at present'
          · cases present'; cases state'
          · cases present'
            cases state'
            exact known
          · exact consistent.known present' state'
        unique := by
          intro d p q x x' v i present₁ present₂ state₁ state₂
          rw [read] at present₁ present₂
          split_ifs at present₁ present₂ <;>
            first
            | exact consistent.unique present₁ present₂ state₁ state₂
            | (cases present₁; cases state₁)
            | (cases present₂; cases state₂) }
  | _ =>
      have first : s.disconnect dom c = s := by simp [disconnect, state]
      rw [first]
      refine consistent.rewrite found ?_ ?_ ?_ ?_ ?_
      · intro r q; simp [state]
      · intro r q; simp [EventChannel.FREE]
      · exact fun _ => ⟨rfl, rfl⟩
      · intro r; simp [EventChannel.FREE]
      · intro v i; simp [EventChannel.FREE]

end Consistent

end Baleen.Evtchn.System
