import TelemetryHub.Core.State

/-!
# Specifications of core methods

A method is specified by what it does to the core, whatever the clock reads and
whatever UUIDs are drawn, as long as each draw satisfies `drawn`.
-/

namespace TelemetryHub

open Lib CoreM

/-- A world seen as its core, the UUIDs to come all satisfying `drawn`. -/
def coreWith (drawn : String → Prop) : Proc.Observation World RchCore where
  view := World.core
  rest w := ∀ n, drawn (w.draws n).simple

namespace CoreM

/-- Every run of `m` on `core` ends as `Q` says. -/
abbrev Spec {α : Type} (drawn : String → Prop) (m : CoreM α) (core : RchCore)
    (Q : Except RchCoreError α → RchCore → Prop) : Prop :=
  Proc.Spec (coreWith drawn) m core Q

namespace Spec

variable {α β : Type} {drawn : String → Prop} {core₀ : RchCore}
  {Q : Except RchCoreError α → RchCore → Prop}

/-- `self`, read. -/
theorem read {k : RchCore → CoreM α} (h : Spec drawn (k core₀) core₀ Q) :
    Spec drawn (core >>= k) core₀ Q := by
  rintro w rfl hrest
  exact h w rfl hrest

/-- A write, and what follows it. -/
theorem write {f : RchCore → RchCore} {k : Unit → CoreM α}
    (h : Spec drawn (k ()) (f core₀) Q) : Spec drawn (update f >>= k) core₀ Q := by
  rintro w rfl hrest
  exact h { w with core := f w.core } rfl hrest

/-- A write that ends the method. -/
theorem lastWrite {f : RchCore → RchCore} {Q : Except RchCoreError Unit → RchCore → Prop}
    (h : Q (.ok ()) (f core₀)) : Spec drawn (update f) core₀ Q := by
  rintro w rfl hrest
  exact ⟨h, hrest⟩

theorem now {k : Instant → CoreM α} (h : ∀ t, Spec drawn (k t) core₀ Q) :
    Spec drawn (TelemetryHub.now >>= k) core₀ Q := by
  rintro w rfl hrest
  exact h _ { w with clock := fun n => w.clock (n + 1) } rfl hrest

theorem clock {k : Int → CoreM α} (h : ∀ t, Spec drawn (k t) core₀ Q) :
    Spec drawn (utcNowMs >>= k) core₀ Q := by
  rw [utcNowMs, bind_assoc]
  exact now fun t => h t.timestampMillis

/-- A reading of the clock, returned. -/
theorem clockValue : Spec drawn utcNowMs core₀ fun r core' => core' = core₀ ∧ ∃ t, r = .ok t := by
  rintro w rfl hrest
  exact ⟨⟨rfl, _, rfl⟩, hrest⟩

theorem clockText {k : String → CoreM α} (h : ∀ t, Spec drawn (k t) core₀ Q) :
    Spec drawn (utcNowRfc3339 >>= k) core₀ Q := by
  rw [utcNowRfc3339, bind_assoc]
  exact now fun t => h t.rfc3339

theorem draw {k : String → CoreM α} (h : ∀ u : Uuid, drawn u.simple → Spec drawn (k u.simple) core₀ Q) :
    Spec drawn (newUuid >>= k) core₀ Q := by
  rintro w rfl hrest
  exact h _ (hrest 0) { w with draws := fun n => w.draws (n + 1) } rfl fun n => hrest (n + 1)

/-- A uid named by the caller, else a draw. -/
theorem drawUnless {value : Option String} {k : String → CoreM α}
    (h : ∀ uid, value = some uid ∨ value = none ∧ drawn uid ∧ (∃ u : Uuid, uid = u.simple) →
      Spec drawn (k uid) core₀ Q) :
    Spec drawn (orNewUuid value >>= k) core₀ Q := by
  cases value with
  | some uid => exact h uid (.inl rfl)
  | none => exact draw fun u hdrawn => h u.simple (.inr ⟨rfl, hdrawn, u, rfl⟩)

/-- A method that only reads. -/
theorem reading {m : CoreM β} {k : β → CoreM α}
    (hm : Spec drawn m core₀ fun r core' => core' = core₀ ∧ ∃ b, r = .ok b)
    (h : ∀ b, Spec drawn (k b) core₀ Q) : Spec drawn (m >>= k) core₀ Q := by
  refine Proc.Spec.bind hm ?_ ?_
  · rintro b core' ⟨rfl, -⟩
    exact h b
  · rintro e core' ⟨-, b, hb⟩
    cases hb

end Spec
end CoreM

/-! ## Rewriting loops -/

/-- The records are the ones of `m`, those satisfying `p` rewritten by `f` at some
reading of the clock. -/
structure Rewritten {V : Type} (p : V → Bool) (f : Int → V → V) (m m' : Dict String V) : Prop where
  kept : ∀ k v, m.get k = some v → p v = false → m'.get k = some v
  changed : ∀ k v, m.get k = some v → p v = true → ∃ now, m'.get k = some (f now v)
  absent : ∀ k, m.get k = none → m'.get k = none

/-- A rewritten record comes from one that was there. -/
theorem Rewritten.source {V : Type} {p : V → Bool} {f : Int → V → V} {m m' : Dict String V}
    (h : Rewritten p f m m') {k : String} {v' : V} (hget : m'.get k = some v') :
    ∃ v, m.get k = some v ∧ (p v = false ∧ v' = v ∨ p v = true ∧ ∃ now, v' = f now v) := by
  cases hm : m.get k with
  | none =>
    rw [h.absent k hm] at hget
    cases hget
  | some v =>
    cases hp : p v with
    | false =>
      rw [h.kept k v hm hp] at hget
      exact ⟨v, rfl, .inl ⟨hp, (Option.some.inj hget).symm⟩⟩
    | true =>
      obtain ⟨now, hnow⟩ := h.changed k v hm hp
      rw [hnow] at hget
      exact ⟨v, rfl, .inr ⟨hp, now, (Option.some.inj hget).symm⟩⟩

theorem Rewritten.contains {V : Type} {p : V → Bool} {f : Int → V → V} {m m' : Dict String V}
    (h : Rewritten p f m m') (k : String) : m'.contains k = m.contains k := by
  unfold Dict.contains
  cases hm : m.get k with
  | none => rw [h.absent k hm]
  | some v =>
    cases hp : p v with
    | false => rw [h.kept k v hm hp]
    | true =>
      obtain ⟨now, hnow⟩ := h.changed k v hm hp
      rw [hnow]
      rfl

/-- The loop over a part of the records changes those only. The induction is on the
part still to come, which `acc` has as it was. -/
theorem rewriteLoop_spec {V : Type} {drawn : String → Prop} {core₀ : RchCore} {p : V → Bool}
    {f : Int → V → V} {rest : List (String × V)} (nodup : (rest.map Prod.fst).Nodup)
    {acc : Dict String V} (todo : ∀ e ∈ rest, acc.get e.1 = some e.2) :
    Spec drawn (rest.foldlM (fun acc (key, record) => do
        if p record then return acc.insert key (f (← utcNowMs) record) else return acc) acc) core₀
      fun r core' => core' = core₀ ∧ ∃ m', r = .ok m' ∧
        (∀ k v, (k, v) ∈ rest → p v = false → m'.get k = some v) ∧
        (∀ k v, (k, v) ∈ rest → p v = true → ∃ now, m'.get k = some (f now v)) ∧
        ∀ k, k ∉ rest.map Prod.fst → m'.get k = acc.get k := by
  induction rest generalizing acc with
  | nil => exact Proc.Spec.pure ⟨rfl, acc, rfl, nofun, nofun, fun _ _ => rfl⟩
  | cons e rest ih =>
    obtain ⟨key, record⟩ := e
    rw [List.map_cons, List.nodup_cons] at nodup
    obtain ⟨hkey, nodup⟩ := nodup
    have hrecord := todo (key, record) List.mem_cons_self
    have later : ∀ e ∈ rest, e.1 ≠ key := by
      rintro e he rfl
      exact hkey (List.mem_map.2 ⟨e, he, rfl⟩)
    rw [List.foldlM_cons]
    dsimp only
    cases hp : p record with
    | false =>
      refine (ih nodup fun e he => todo e (List.mem_cons_of_mem _ he)).mono ?_
      rintro r core' ⟨rfl, m', rfl, kept, changed, frame⟩
      refine ⟨rfl, m', rfl, fun k v hmem hv => ?_, fun k v hmem hv => ?_, fun k hk => ?_⟩
      · rcases List.mem_cons.1 hmem with heq | hmem
        · cases heq
          rw [frame _ hkey, hrecord]
        · exact kept k v hmem hv
      · rcases List.mem_cons.1 hmem with heq | hmem
        · cases heq
          rw [hp] at hv
          cases hv
        · exact changed k v hmem hv
      · rw [List.map_cons, List.mem_cons, not_or] at hk
        exact frame k hk.2
    | true =>
      rw [if_pos rfl, bind_assoc]
      refine Spec.clock fun now => ?_
      have todo' : ∀ e ∈ rest, (acc.insert key (f now record)).get e.1 = some e.2 := by
        intro e he
        rw [Dict.get_insert_ne (later e he)]
        exact todo e (List.mem_cons_of_mem _ he)
      refine (ih nodup todo').mono ?_
      rintro r core' ⟨rfl, m', rfl, kept, changed, frame⟩
      refine ⟨rfl, m', rfl, fun k v hmem hv => ?_, fun k v hmem hv => ?_, fun k hk => ?_⟩
      · rcases List.mem_cons.1 hmem with heq | hmem
        · cases heq
          rw [hp] at hv
          cases hv
        · exact kept k v hmem hv
      · rcases List.mem_cons.1 hmem with heq | hmem
        · cases heq
          exact ⟨now, by rw [frame _ hkey, Dict.get_insert_self]⟩
        · exact changed k v hmem hv
      · rw [List.map_cons, List.mem_cons, not_or] at hk
        rw [frame k hk.2, Dict.get_insert_ne hk.1]

theorem rewriteWhere_spec {V : Type} {drawn : String → Prop} {core₀ : RchCore} (p : V → Bool)
    (f : Int → V → V) (records : Dict String V) :
    Spec drawn (rewriteWhere p f records) core₀ fun r core' =>
      core' = core₀ ∧ ∃ m', r = .ok m' ∧ Rewritten p f records m' := by
  have nodup : (records.toPairs.map Prod.fst).Nodup := Dict.nodup_toPairs records
  refine (rewriteLoop_spec nodup fun e he => Dict.mem_toPairs.1 he).mono ?_
  rintro r core' ⟨rfl, m', rfl, kept, changed, frame⟩
  refine ⟨rfl, m', rfl, fun k v hget => kept k v (Dict.mem_toPairs.2 hget),
    fun k v hget => changed k v (Dict.mem_toPairs.2 hget), fun k hnone => ?_⟩
  rw [frame k, hnone]
  intro hmem
  obtain ⟨⟨k', v⟩, he, rfl⟩ := List.mem_map.1 hmem
  rw [Dict.mem_toPairs.1 he] at hnone
  cases hnone

end TelemetryHub
