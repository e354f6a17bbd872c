import Baleen.Sched.Cpus
import Baleen.Lib.Agree

/-!
# Schedules up to accounting

The time a vCPU has accrued decides nothing: two schedulers that differ in it alone
accept the same calls and stay that close.
-/

namespace Baleen.Sched

/-- A vCPU without its accounting. -/
def VirtualCpu.plain (c : VirtualCpu) : VirtualCpu := { c with runtime := 0, dispatchedAt := 0 }

namespace System

structure Alike (s t : System) : Prop where
  domains : s.domains.map (fun row => row.map VirtualCpu.plain) =
    t.domains.map fun row => row.map VirtualCpu.plain
  pcpus : s.pcpus = t.pcpus

variable {s t : System} {α : Type} {dom : DomId} {v : Vcpu}

namespace Alike

theorem refl (s : System) : Alike s s := ⟨rfl, rfl⟩

theorem symm (alike : Alike s t) : Alike t s := ⟨alike.domains.symm, alike.pcpus.symm⟩

theorem trans {u : System} (first : Alike s t) (second : Alike t u) : Alike s u :=
  ⟨first.domains.trans second.domains, first.pcpus.trans second.pcpus⟩

theorem domainCount (alike : Alike s t) : s.domainCount = t.domainCount := by
  have lengths := congrArg List.length alike.domains
  simpa [System.domainCount] using lengths

theorem vcpuCount (alike : Alike s t) (dom : DomId) : s.vcpuCount dom = t.vcpuCount dom := by
  have rows := congrArg (fun g : Grid VirtualCpu => g.width dom.toNat) alike.domains
  simpa [System.vcpuCount, Grid.width_map] using rows

theorem vcpu? (alike : Alike s t) (dom : DomId) (v : Vcpu) :
    (s.vcpu? dom v).map VirtualCpu.plain = (t.vcpu? dom v).map VirtualCpu.plain := by
  have cells := congrArg (fun g : Grid VirtualCpu => g.get? dom.toNat v.toNat) alike.domains
  simpa [System.vcpu?, Grid.get?_map] using cells

theorem vcpu (alike : Alike s t) (dom : DomId) (v : Vcpu) :
    (∃ c c', s.vcpu dom v = .ok c ∧ t.vcpu dom v = .ok c' ∧ c.plain = c'.plain) ∨
      ∃ e, s.vcpu dom v = .error e ∧ t.vcpu dom v = .error e := by
  have rows := congrArg (fun g => g[dom.toNat]?) alike.domains
  simp only [List.getElem?_map] at rows
  unfold System.vcpu
  match here : s.domains[dom.toNat]?, there : t.domains[dom.toNat]? with
  | none, none => exact .inr ⟨.badDomain, rfl, rfl⟩
  | none, some row' => simp [here, there] at rows
  | some row, none => simp [here, there] at rows
  | some row, some row' =>
      simp only [here, there, Option.map_some, Option.some.injEq] at rows
      have cells := congrArg (fun r => r[v.toNat]?) rows
      simp only [List.getElem?_map] at cells
      match found : row[v.toNat]?, found' : row'[v.toNat]? with
      | none, none => exact .inr ⟨.badVcpu, by simp [found], by simp [found']⟩
      | none, some c' => simp [found, found'] at cells
      | some c, none => simp [found, found'] at cells
      | some c, some c' =>
          simp only [found, found', Option.map_some, Option.some.injEq] at cells
          exact .inl ⟨c, c', by simp [found], by simp [found'], cells⟩

theorem stateOf (alike : Alike s t) (dom : DomId) (v : Vcpu) :
    s.stateOf dom v = t.stateOf dom v := by
  have states := congrArg (Option.map VirtualCpu.state) (alike.vcpu? dom v)
  simpa [System.stateOf, Function.comp_def, VirtualCpu.plain] using states

theorem affinityOf (alike : Alike s t) (dom : DomId) (v : Vcpu) :
    s.affinityOf dom v = t.affinityOf dom v := by
  have masks := congrArg (Option.map VirtualCpu.affinity) (alike.vcpu? dom v)
  simpa [System.affinityOf, Function.comp_def, VirtualCpu.plain] using masks

theorem affinityPermits (alike : Alike s t) (dom : DomId) (v : Vcpu) (pcpu : Pcpu) :
    s.affinityPermits dom v pcpu = t.affinityPermits dom v pcpu := by
  unfold System.affinityPermits
  rcases alike.vcpu dom v with ⟨c, c', here, there, same⟩ | ⟨e, here, there⟩
  · have mask : c.affinity = c'.affinity := congrArg (·.affinity) same
    simp only [here, there, mask]
  · rw [here, there]

theorem setVcpu (alike : Alike s t) {c c' : VirtualCpu} (same : c.plain = c'.plain) (dom : DomId)
    (v : Vcpu) : Alike (s.setVcpu dom v c) (t.setVcpu dom v c') := by
  refine ⟨?_, alike.pcpus⟩
  unfold System.setVcpu
  rw [Grid.map_set, Grid.map_set, alike.domains, same]

theorem setPcpu (alike : Alike s t) (pcpu : Pcpu) (occupant : Option (DomId × Vcpu)) :
    Alike (s.setPcpu pcpu occupant) (t.setPcpu pcpu occupant) := by
  refine ⟨alike.domains, ?_⟩
  unfold System.setPcpu
  rw [alike.pcpus]

theorem offCpu (alike : Alike s t) {c c' : VirtualCpu} (same : c.plain = c'.plain) (dom : DomId)
    (v : Vcpu) (now : Ticks) : Alike (offCpu dom v now c s) (offCpu dom v now c' t) := by
  have state : c.state = c'.state := congrArg (·.state) same
  have mask : c.affinity = c'.affinity := congrArg (·.affinity) same
  unfold System.offCpu
  rw [← state]
  cases c.state with
  | running pcpu =>
      refine (alike.setVcpu ?_ dom v).setPcpu pcpu none
      simp only [account, VirtualCpu.plain, state, mask]
  | _ => exact alike

end Alike

theorem closed_affinity (now : Ticks) (c : VirtualCpu) : (closed now c).affinity = c.affinity := by
  unfold closed account
  split <;> rfl

theorem plain_closed {c c' : VirtualCpu} (same : c.plain = c'.plain) (now : Ticks)
    (state : RunState) : VirtualCpu.plain { closed now c with state := state } =
      VirtualCpu.plain { closed now c' with state := state } := by
  have mask : c.affinity = c'.affinity := congrArg (·.affinity) same
  simp only [VirtualCpu.plain, closed_affinity, mask]

variable {good bad : System → System → Prop}

theorem agree_vcpu {f g : VirtualCpu → Op System SchedError α} (alike : Alike s t)
    (refused : bad s t) (next : ∀ c c', c.plain = c'.plain → c.state = c'.state →
      Op.Agree good bad (f c s) (g c' t)) :
    Op.Agree good bad ((Op.query (·.vcpu dom v) >>= f) s) ((Op.query (·.vcpu dom v) >>= g) t) := by
  rw [Op.query_bind_apply, Op.query_bind_apply]
  rcases alike.vcpu dom v with ⟨c, c', here, there, same⟩ | ⟨e, here, there⟩
  · rw [here, there]
    exact next c c' same (congrArg (·.state) same)
  · rw [here, there]
    exact .error refused

theorem admitVcpu_agree (alike : Alike s t) (dom : DomId) (v : Vcpu) :
    Op.Agree Alike Alike (admitVcpu dom v s) (admitVcpu dom v t) := by
  refine agree_vcpu alike alike fun c c' same state => ?_
  refine Op.agree_ensure (by rw [state]) alike fun _ => .ok (alike.setVcpu ?_ dom v)
  have mask : c.affinity = c'.affinity := congrArg (·.affinity) same
  simp only [VirtualCpu.plain, mask]

theorem run_agree (alike : Alike s t) (dom : DomId) (v : Vcpu) (pcpu : Pcpu) (now : Ticks) :
    Op.Agree Alike Alike (run dom v pcpu now s) (run dom v pcpu now t) := by
  refine Op.agree_ensure (by rw [alike.pcpus]) alike fun _ => ?_
  refine agree_vcpu alike alike fun c c' same state => ?_
  refine Op.agree_ensure (by rw [state]) alike fun _ => ?_
  refine Op.agree_ensure (alike.affinityPermits dom v pcpu) alike fun _ => ?_
  refine Op.agree_ensure (by rw [alike.pcpus]) alike fun _ => .ok ?_
  have mask : c.affinity = c'.affinity := congrArg (·.affinity) same
  refine (alike.setVcpu ?_ dom v).setPcpu pcpu _
  simp only [VirtualCpu.plain, mask]

theorem preempt_agree (alike : Alike s t) (dom : DomId) (v : Vcpu) (now : Ticks) :
    Op.Agree Alike Alike (preempt dom v now s) (preempt dom v now t) := by
  refine agree_vcpu alike alike fun c c' same state => ?_
  refine Op.agree_ensure (by rw [state]) alike fun _ => .ok ?_
  exact (alike.offCpu same dom v now).setVcpu (plain_closed same now _) dom v

theorem block_agree (alike : Alike s t) (dom : DomId) (v : Vcpu) (now : Ticks) :
    Op.Agree Alike Alike (block dom v now s) (block dom v now t) := by
  refine agree_vcpu alike alike fun c c' same state => ?_
  refine Op.agree_ensure (by rw [state]) alike fun _ => .ok ?_
  exact (alike.offCpu same dom v now).setVcpu (plain_closed same now _) dom v

theorem wake_agree (alike : Alike s t) (dom : DomId) (v : Vcpu) :
    Op.Agree Alike Alike (wake dom v s) (wake dom v t) := by
  refine agree_vcpu alike alike fun c c' same state => ?_
  refine Op.agree_ensure (by rw [state]) alike fun _ => .ok (alike.setVcpu ?_ dom v)
  have mask : c.affinity = c'.affinity := congrArg (·.affinity) same
  simp only [VirtualCpu.plain, mask]

theorem fullAffinity_alike (alike : Alike s t) : s.fullAffinity = t.fullAffinity := by
  unfold fullAffinity
  rw [alike.pcpus]

theorem setAffinity_agree (alike : Alike s t) (dom : DomId) (v : Vcpu) (affinity : Nat) :
    Op.Agree Alike Alike (setAffinity dom v affinity s) (setAffinity dom v affinity t) := by
  unfold setAffinity
  rw [Op.read_bind_apply, Op.read_bind_apply, fullAffinity_alike alike]
  refine agree_vcpu alike alike fun c c' same state => ?_
  refine Op.agree_ensure (by rw [state]) alike fun _ => .ok (alike.setVcpu ?_ dom v)
  simp only [VirtualCpu.plain, state]

theorem offline_agree (alike : Alike s t) (dom : DomId) (v : Vcpu) (now : Ticks) :
    Op.Agree Alike Alike (offline dom v now s) (offline dom v now t) := by
  unfold offline
  rw [Op.read_bind_apply, Op.read_bind_apply, fullAffinity_alike alike]
  refine agree_vcpu alike alike fun c c' same state => ?_
  refine Op.agree_ensure (by rw [state]) alike fun _ => .ok ?_
  refine (alike.offCpu same dom v now).setVcpu ?_ dom v
  simp only [VirtualCpu.plain]

theorem offlineAll_alike (alike : Alike s t) (dom : DomId) (now : Ticks) :
    Alike (offlineAll dom now s).2 (offlineAll dom now t).2 := by
  unfold offlineAll vcpus
  rw [alike.vcpuCount]
  refine Op.agree_sweep ?_ _ alike
  intro v s t alike
  rw [alike.stateOf]
  split_ifs
  · exact .inr ⟨_, _, rfl, rfl, offline_agree alike dom v now⟩
  · exact .inl ⟨rfl, rfl⟩

end System

end Baleen.Sched
