import CanDecoder.Proofs.PayloadDecoding
import Mathlib.Data.List.Sort

/-! Registering PD16 modules on a bus. A registration is refused, with the module's letter,
exactly when the module is registered already, and a refused registration in place changes
nothing; an accepted one puts the module in its place in letter order, which on the ascending
lists that registrations keep is appending it and sorting stably by letter. Hence after any run
of registrations the modules ascend strictly, each registered once, and they are exactly
the modules whose registration succeeded: one registration of each module named. Since the
blocks of different modules are disjoint, a frame goes to a module exactly when the module
is registered and its block holds the identifier. An ascending list is fixed by its
members, so the order of the registrations does not matter at all. -/

namespace CanDecoder

namespace Module

theorem index_injective : Function.Injective Module.index := by
  intro m n h
  cases m <;> cases n <;> simp_all [index]

/-- The blocks of different modules are disjoint. -/
theorem eq_of_handles {m n : Module} {id : FrameId} (hm : m.handles id = true)
    (hn : n.handles id = true) : m = n := by
  rw [handles_eq, decide_eq_true_iff] at hm hn
  apply index_injective
  simp only [baseId] at hm hn
  omega

end Module

namespace Bus

/-- Modules in strictly ascending letter order, so each one at most once. -/
def Ascending (ms : List Module) : Prop := ms.Pairwise fun m n => m.index < n.index

instance : Std.Irrefl fun m n : Module => m.index < n.index := ⟨fun _ => Nat.lt_irrefl _⟩

instance : Std.Antisymm fun m n : Module => m.index < n.index :=
  ⟨fun _ _ hmn hnm => absurd (Nat.lt_trans hmn hnm) (Nat.lt_irrefl _)⟩

/-- An ascending list of modules is fixed by its members. -/
theorem Ascending.eq_of_mem_iff {ms ns : List Module} (hm : Ascending ms) (hn : Ascending ns)
    (h : ∀ m, m ∈ ms ↔ m ∈ ns) : ms = ns :=
  List.Pairwise.eq_of_mem_iff hm hn h

theorem insertModule_perm (m : Module) (ms : List Module) :
    (insertModule m ms).Perm (m :: ms) := by
  fun_induction insertModule m ms with
  | case1 => rfl
  | case2 n ns _ => rfl
  | case3 n ns _ ih => exact (ih.cons n).trans (List.Perm.swap m n ns)

theorem mem_insertModule {m n : Module} {ms : List Module} :
    n ∈ insertModule m ms ↔ n = m ∨ n ∈ ms := by
  rw [(insertModule_perm m ms).mem_iff, List.mem_cons]

/-- Putting a module that is not in an ascending list at its place keeps the list
ascending. -/
theorem insertModule_ascending {m : Module} {ms : List Module} (h : Ascending ms)
    (hm : m ∉ ms) : Ascending (insertModule m ms) := by
  induction ms with
  | nil => simp [insertModule, Ascending]
  | cons n ns ih =>
    obtain ⟨hn, hns⟩ := List.pairwise_cons.mp h
    have hne : m.index ≠ n.index := fun he => hm (Module.index_injective he ▸ List.mem_cons_self)
    unfold insertModule
    split
    · refine List.Pairwise.cons (fun k hk => ?_) h
      rcases List.mem_cons.mp hk with rfl | hk
      · assumption
      · exact Nat.lt_trans ‹_› (hn k hk)
    · refine List.Pairwise.cons (fun k hk => ?_) (ih hns fun h' => hm (List.mem_cons_of_mem n h'))
      rcases mem_insertModule.mp hk with rfl | hk
      · omega
      · exact hn k hk

/-- On an ascending list and a module not in it, putting the module at its place is appending
it and sorting stably by letter. -/
theorem insertModule_eq_mergeSort {m : Module} {ms : List Module} (h : Ascending ms)
    (hm : m ∉ ms) :
    insertModule m ms = (ms ++ [m]).mergeSort fun x y => decide (x.index ≤ y.index) := by
  have hperm : ((ms ++ [m]).mergeSort fun x y => decide (x.index ≤ y.index)).Perm (m :: ms) :=
    (List.mergeSort_perm _ _).trans (List.perm_append_singleton m ms)
  -- each module is in the sorted list once, so its letters ascend strictly
  have hnodup : ((ms ++ [m]).mergeSort fun x y => decide (x.index ≤ y.index)).Nodup := by
    refine hperm.nodup_iff.mpr (List.nodup_cons.mpr ⟨hm, h.imp fun hlt he => ?_⟩)
    subst he
    exact Nat.lt_irrefl _ hlt
  have hsorted : ((ms ++ [m]).mergeSort fun x y => decide (x.index ≤ y.index)).Pairwise
      fun x y => decide (x.index ≤ y.index) = true :=
    List.pairwise_mergeSort (fun _ _ _ hxy hyz => by simp only [decide_eq_true_eq] at *; omega)
      (fun x y => by simpa using Nat.le_total x.index y.index) (ms ++ [m])
  have hasc : Ascending ((ms ++ [m]).mergeSort fun x y => decide (x.index ≤ y.index)) :=
    (hsorted.and hnodup).imp fun ⟨hle, hne⟩ =>
      Nat.lt_of_le_of_ne (of_decide_eq_true hle) fun he => hne (Module.index_injective he)
  exact Ascending.eq_of_mem_iff (insertModule_ascending h hm) hasc fun n => by
    rw [(insertModule_perm m ms).mem_iff, hperm.mem_iff]

/-- A registration is refused, with the module's letter, exactly when the module is
registered already; otherwise the module joins the list in letter order. -/
theorem addModule_eq (b : Bus) (m : Module) :
    b.addModule m =
      if m ∈ b.modules then .error (.duplicateDevice m.letter)
      else .ok { b with modules := insertModule m b.modules } := by
  simp only [addModule, List.contains_iff_mem]

/-- On the ascending lists that registration keeps, an accepted registration appends the
module and sorts the modules stably by letter. -/
theorem addModule_eq_mergeSort {b : Bus} (h : Ascending b.modules) {m : Module}
    (hm : m ∉ b.modules) :
    b.addModule m = .ok { b with
      modules := (b.modules ++ [m]).mergeSort fun x y => decide (x.index ≤ y.index) } := by
  rw [addModule_eq, if_neg hm, insertModule_eq_mergeSort h hm]

theorem addModule_error_iff (b : Bus) (m : Module) :
    (∃ e, b.addModule m = .error e) ↔ m ∈ b.modules := by
  rw [addModule_eq]
  split
  · exact ⟨fun _ => ‹_›, fun _ => ⟨_, rfl⟩⟩
  · exact ⟨fun ⟨_, he⟩ => (nomatch he), fun h => absurd h ‹_›⟩

theorem error_of_addModule {b : Bus} {m : Module} {e : Error} (he : b.addModule m = .error e) :
    e = .duplicateDevice m.letter ∧ m ∈ b.modules := by
  rw [addModule_eq] at he
  split at he
  · cases he
    exact ⟨rfl, ‹_›⟩
  · cases he

/-- Register modules one after another, each in place: a refused registration leaves the
bus as it was. -/
def registerAll (b : Bus) : List Module → Bus
  | [] => b
  | m :: ms =>
    match b.addModule m with
    | .ok b' => b'.registerAll ms
    | .error _ => b.registerAll ms

/-- The modules whose registration succeeds during `registerAll`, in call order. -/
def accepted (b : Bus) : List Module → List Module
  | [] => []
  | m :: ms =>
    match b.addModule m with
    | .ok b' => m :: b'.accepted ms
    | .error _ => b.accepted ms

/-- The bus after registering `m` in place. -/
theorem registerAll_cons (b : Bus) (m : Module) (ms : List Module) :
    b.registerAll (m :: ms) =
      (if m ∈ b.modules then b else { b with modules := insertModule m b.modules }).registerAll ms := by
  by_cases hm : m ∈ b.modules <;> simp [registerAll, addModule_eq, hm]

theorem accepted_cons (b : Bus) (m : Module) (ms : List Module) :
    b.accepted (m :: ms) =
      if m ∈ b.modules then b.accepted ms
      else m :: ({ b with modules := insertModule m b.modules } : Bus).accepted ms := by
  by_cases hm : m ∈ b.modules <;> simp [accepted, addModule_eq, hm]

/-- Registrations keep the modules ascending. -/
theorem registerAll_ascending {b : Bus} (h : Ascending b.modules) (ms : List Module) :
    Ascending (b.registerAll ms).modules := by
  induction ms generalizing b with
  | nil => exact h
  | cons m ms ih =>
    rw [registerAll_cons]
    split
    · exact ih h
    · exact ih (insertModule_ascending h ‹_›)

/-- After a run, the registered modules are those registered before and those whose
registration succeeded; a registration succeeds exactly for a module named in the run and
not registered before, and for each such module once. -/
theorem registerAll_accepted (b : Bus) (ms : List Module) :
    (∀ m, m ∈ (b.registerAll ms).modules ↔ m ∈ b.modules ∨ m ∈ b.accepted ms) ∧
    (∀ m, m ∈ b.accepted ms ↔ m ∈ ms ∧ m ∉ b.modules) ∧
    (b.accepted ms).Nodup := by
  induction ms generalizing b with
  | nil => simp [registerAll, accepted]
  | cons m ms ih =>
    rw [registerAll_cons, accepted_cons]
    by_cases hm : m ∈ b.modules
    · obtain ⟨hreg, hacc, hnodup⟩ := ih b
      simp only [if_pos hm]
      refine ⟨hreg, fun n => ?_, hnodup⟩
      rw [hacc, List.mem_cons]
      constructor
      · exact fun ⟨hn, hnb⟩ => ⟨Or.inr hn, hnb⟩
      · rintro ⟨rfl | hn, hnb⟩
        · exact absurd hm hnb
        · exact ⟨hn, hnb⟩
    · obtain ⟨hreg, hacc, hnodup⟩ := ih { b with modules := insertModule m b.modules }
      simp only [if_neg hm]
      refine ⟨fun n => ?_, fun n => ?_, ?_⟩
      · rw [hreg, List.mem_cons, mem_insertModule]
        tauto
      · rw [List.mem_cons, hacc, mem_insertModule, List.mem_cons]
        by_cases hn : n = m
        · subst hn
          simp [hm]
        · simp [hn]
      · refine List.nodup_cons.mpr ⟨fun hmem => ?_, hnodup⟩
        exact ((hacc m).mp hmem).2 (mem_insertModule.mpr (Or.inl rfl))

theorem mem_registerAll {b : Bus} {ms : List Module} {m : Module} :
    m ∈ (b.registerAll ms).modules ↔ m ∈ b.modules ∨ m ∈ ms := by
  obtain ⟨hreg, hacc, -⟩ := registerAll_accepted b ms
  rw [hreg, hacc]
  tauto

theorem registerAll_ecu (b : Bus) (ms : List Module) : (b.registerAll ms).ecu = b.ecu := by
  induction ms generalizing b with
  | nil => rfl
  | cons m ms ih =>
    rw [registerAll_cons]
    split
    · exact ih b
    · exact ih _

theorem new_ascending (ecu : Ecu) : Ascending (Bus.new ecu).modules := List.Pairwise.nil

theorem eq_of_ecu_of_modules {b b' : Bus} (he : b.ecu = b'.ecu) (hm : b.modules = b'.modules) :
    b = b' := by
  cases b
  cases b'
  cases he
  cases hm
  rfl

/-- Runs that name the same modules, in any order and any number of times, give the same
bus: both keep the ECU and leave ascending lists with the same members. -/
theorem registerAll_eq_of_mem_iff {b : Bus} (h : Ascending b.modules) {ms ms' : List Module}
    (hsame : ∀ m, m ∈ ms' ↔ m ∈ ms) : b.registerAll ms' = b.registerAll ms := by
  refine eq_of_ecu_of_modules (by rw [registerAll_ecu, registerAll_ecu]) ?_
  refine Ascending.eq_of_mem_iff (registerAll_ascending h ms') (registerAll_ascending h ms)
    fun m => ?_
  rw [mem_registerAll, mem_registerAll, hsame]

/-- A frame goes to a module exactly when the module is registered and its block holds
the identifier: no two blocks meet, so the first module that takes the identifier is the
only one. -/
theorem route_eq_module_iff (b : Bus) (id : FrameId) (m : Module) :
    b.route id = .module m ↔ m ∈ b.modules ∧ m.handles id = true := by
  unfold route
  constructor
  · intro h
    split at h
    · cases h
      rename_i hfind
      have hm := List.find?_some hfind
      exact ⟨List.mem_of_find?_eq_some hfind, hm⟩
    · cases h
  · rintro ⟨hmem, hm⟩
    cases hfind : b.modules.find? (·.handles id) with
    | none => exact absurd hm (by simpa using List.find?_eq_none.mp hfind m hmem)
    | some n =>
      have hn := List.find?_some hfind
      exact congrArg Route.module (Module.eq_of_handles hn hm)

theorem route_eq_ecu_iff (b : Bus) (id : FrameId) :
    b.route id = .ecu ↔ ∀ m ∈ b.modules, m.handles id = false := by
  unfold route
  cases hfind : b.modules.find? (·.handles id) with
  | none => simpa using List.find?_eq_none.mp hfind
  | some n =>
    have hn := List.find?_some hfind
    simp only [reduceCtorEq, false_iff, not_forall, Bool.not_eq_false]
    exact ⟨n, List.mem_of_find?_eq_some hfind, hn⟩

theorem decode_of_route_module {b : Bus} {id : FrameId} {m : Module} (h : b.route id = .module m)
    (p : Payload) : b.decode id p = m.decode id p := by
  rw [decode, h]

theorem decode_of_route_ecu {b : Bus} {id : FrameId} (h : b.route id = .ecu) (p : Payload) :
    b.decode id p = b.ecu.decode id p := by
  rw [decode, h]

end Bus

/-- Every run of registrations on a fresh bus, modules in any order and some refused:
the registered modules ascend strictly by letter and are exactly the modules whose
registration succeeded, one registration of each module the run names; a further
registration is refused, with the module's letter, exactly when the module is registered,
and then leaves the bus as it was; a frame goes to a module exactly when the module is
registered and its block, eight identifiers from `0x6D0 + 8 * index`, holds the
identifier, and is decoded by that module; otherwise it goes to the ECU the bus started
with, and is decoded there even if the schema defines the identifier too; and a run
registering the same modules in another order gives the same bus, so the same modules,
routes, readings and debugging text. -/
theorem registration_invariants (ecu : Ecu) (ms : List Module) :
    let b := (Bus.new ecu).registerAll ms
    Bus.Ascending b.modules ∧
    (∀ m, m ∈ b.modules ↔ m ∈ (Bus.new ecu).accepted ms) ∧
    ((Bus.new ecu).accepted ms).Nodup ∧
    (∀ m, m ∈ (Bus.new ecu).accepted ms ↔ m ∈ ms) ∧
    (∀ m, (∃ e, b.addModule m = .error e) ↔ m ∈ b.modules) ∧
    (∀ m e, b.addModule m = .error e → e = .duplicateDevice m.letter ∧ b.registerAll [m] = b) ∧
    (∀ id m, b.route id = .module m ↔
      m ∈ b.modules ∧ 0x6D0 + 8 * m.index ≤ id.toNat ∧ id.toNat < 0x6D0 + 8 * m.index + 8) ∧
    (∀ id, b.route id = .ecu ↔ ∀ m ∈ b.modules, ¬ (0x6D0 + 8 * m.index ≤ id.toNat ∧
      id.toNat < 0x6D0 + 8 * m.index + 8)) ∧
    (∀ id p m, m ∈ b.modules → 0x6D0 + 8 * m.index ≤ id.toNat →
      id.toNat < 0x6D0 + 8 * m.index + 8 → b.decode id p = m.decode id p) ∧
    (∀ id p, (∀ m ∈ b.modules, ¬ (0x6D0 + 8 * m.index ≤ id.toNat ∧
      id.toNat < 0x6D0 + 8 * m.index + 8)) → b.decode id p = ecu.decode id p) ∧
    (∀ ms', (∀ m, m ∈ ms' ↔ m ∈ ms) → (Bus.new ecu).registerAll ms' = b) := by
  intro b
  have hnew : ∀ m, m ∉ (Bus.new ecu).modules := fun _ => List.not_mem_nil
  obtain ⟨hreg, hacc, hnodup⟩ := Bus.registerAll_accepted (Bus.new ecu) ms
  -- the blocks of the module lemmas, written out from the base identifiers
  have hmodule : ∀ id m, b.route id = .module m ↔
      m ∈ b.modules ∧ 0x6D0 + 8 * m.index ≤ id.toNat ∧ id.toNat < 0x6D0 + 8 * m.index + 8 :=
    fun id m => by rw [Bus.route_eq_module_iff, Module.handles_eq, decide_eq_true_iff, Module.baseId]
  have hecu : ∀ id, b.route id = .ecu ↔ ∀ m ∈ b.modules, ¬ (0x6D0 + 8 * m.index ≤ id.toNat ∧
      id.toNat < 0x6D0 + 8 * m.index + 8) := fun id => by
    rw [Bus.route_eq_ecu_iff]
    exact forall₂_congr fun m _ => by
      rw [Module.handles_eq, Module.baseId, decide_eq_false_iff_not]
  refine ⟨Bus.registerAll_ascending (Bus.new_ascending ecu) ms,
    fun m => by simpa [hnew m] using hreg m, hnodup, fun m => by simpa [hnew m] using hacc m,
    fun m => Bus.addModule_error_iff b m, fun m e he => ?_, hmodule, hecu,
    fun id p m hm hlo hhi => Bus.decode_of_route_module ((hmodule id m).mpr ⟨hm, hlo, hhi⟩) p,
    fun id p hnone => ?_,
    fun ms' hsame => Bus.registerAll_eq_of_mem_iff (Bus.new_ascending ecu) hsame⟩
  · obtain ⟨rfl, hm⟩ := Bus.error_of_addModule he
    exact ⟨rfl, by rw [Bus.registerAll_cons, if_pos hm]; rfl⟩
  · rw [Bus.decode_of_route_ecu ((hecu id).mpr hnone), Bus.registerAll_ecu]
    rfl

end CanDecoder
