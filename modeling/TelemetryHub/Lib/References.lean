import TelemetryHub.Lib.Dict

/-!
# References between tables

The records of one table, or the pairs of a set of links, name keys of another. What adds to
the other table keeps every reference; what removes a key from it has to be told that nothing
refers to it any more.
-/

namespace TelemetryHub.Lib

variable {K V K' W L : Type} [DecidableEq K] [DecidableEq K'] [DecidableEq L]

/-- Whatever key a record names, the other table has it. -/
def RefersInto (ref : V → Option K') (m : Dict K V) (owners : Dict K' W) : Prop :=
  ∀ k v k', m.get k = some v → ref v = some k' → owners.contains k' = true

/-- Whatever key a link names, the table has it. -/
def LinksInto (side : L → K') (links : HSet L) (owners : Dict K' W) : Prop :=
  ∀ link ∈ links, owners.contains (side link) = true

/-- Where nothing is stored, nothing is found. -/
theorem Dict.get_of_toPairs_nil {m : Dict K V} (none : m.toPairs = []) (k : K) : m.get k = .none := by
  cases stored : m.get k with
  | none => rfl
  | some v =>
    have mem := Dict.mem_toPairs.2 stored
    rw [none] at mem
    exact absurd mem List.not_mem_nil

namespace RefersInto

variable {ref : V → Option K'} {m : Dict K V} {owners : Dict K' W}

theorem empty : RefersInto ref (∅ : Dict K V) owners :=
  fun k _ _ stored => absurd ((Dict.get_empty k).symm.trans stored) (Option.some_ne_none _).symm

/-- The records of the new table name what records of the old one named. -/
theorem of_source (h : RefersInto ref m owners) {m' : Dict K V}
    (source : ∀ k v k', m'.get k = some v → ref v = some k' → ∃ k₀ v₀, m.get k₀ = some v₀ ∧ ref v₀ = some k') :
    RefersInto ref m' owners := by
  intro k v k' stored named
  obtain ⟨k₀, v₀, old, same⟩ := source k v k' stored named
  exact h k₀ v₀ k' old same

theorem insert (h : RefersInto ref m owners) {k : K} {v : V}
    (known : ∀ k', ref v = some k' → owners.contains k' = true) : RefersInto ref (m.insert k v) owners := by
  intro k₀ v₀ k' stored named
  rw [Dict.get_insert] at stored
  split at stored
  · rw [← Option.some.inj stored] at named
    exact known k' named
  · exact h k₀ v₀ k' stored named

theorem remove (h : RefersInto ref m owners) (k : K) : RefersInto ref (m.remove k) owners := by
  refine h.of_source fun k₀ v₀ k' stored named => ?_
  rw [Dict.get_remove] at stored
  split at stored
  · cases stored
  · exact ⟨k₀, v₀, stored, named⟩

theorem retain (h : RefersInto ref m owners) (p : K → V → Bool) : RefersInto ref (m.retain p) owners := by
  refine h.of_source fun k₀ v₀ k' stored named => ?_
  rw [Dict.get_retain] at stored
  exact ⟨k₀, v₀, (Option.filter_eq_some_iff.1 stored).1, named⟩

theorem mapValues (h : RefersInto ref m owners) {f : V → V} (same : ∀ v, ref (f v) = ref v) :
    RefersInto ref (m.mapValues f) owners := by
  refine h.of_source fun k₀ v₀ k' stored named => ?_
  rw [Dict.get_mapValues, Option.map_eq_some_iff] at stored
  obtain ⟨v, old, rfl⟩ := stored
  exact ⟨k₀, v, old, (same v).symm.trans named⟩

/-- A table that has grown has what it had. -/
theorem grow {owners' : Dict K' W} (h : RefersInto ref m owners)
    (more : ∀ k', owners.contains k' = true → owners'.contains k' = true) : RefersInto ref m owners' :=
  fun k v k' stored named => more k' (h k v k' stored named)

theorem insertOwner (h : RefersInto ref m owners) (k : K') (w : W) : RefersInto ref m (owners.insert k w) :=
  h.grow fun _ had => Dict.contains_insert.2 (.inr had)

/-- A key that no record names can go. -/
theorem removeOwner (h : RefersInto ref m owners) {k : K'}
    (unnamed : ∀ k₀ v, m.get k₀ = some v → ref v ≠ some k) : RefersInto ref m (owners.remove k) := by
  intro k₀ v k' stored named
  have other : k' ≠ k := fun same => unnamed k₀ v stored (same ▸ named)
  rw [Dict.contains, Dict.get_remove, if_neg other]
  exact h k₀ v k' stored named

end RefersInto

namespace LinksInto

variable {side : L → K'} {links : HSet L} {owners : Dict K' W}

omit [DecidableEq L] in
theorem empty : LinksInto side ∅ owners := fun link linked => absurd linked (HSet.not_mem_empty link)

theorem insert (h : LinksInto side links owners) {link : L} (known : owners.contains (side link) = true) :
    LinksInto side (links.insert link) owners := by
  intro other linked
  rcases HSet.mem_insert.1 linked with rfl | linked
  · exact known
  · exact h other linked

omit [DecidableEq L] in
/-- Fewer links name less. -/
theorem subset (h : LinksInto side links owners) {links' : HSet L} (fewer : ∀ link ∈ links', link ∈ links) :
    LinksInto side links' owners := fun link linked => h link (fewer link linked)

theorem erase (h : LinksInto side links owners) (link : L) : LinksInto side (links.erase link) owners :=
  h.subset fun _ linked => (HSet.mem_erase.1 linked).2

omit [DecidableEq L] in
theorem retain (h : LinksInto side links owners) (p : L → Bool) : LinksInto side (links.retain p) owners :=
  h.subset fun _ linked => (HSet.mem_retain.1 linked).1

theorem extend (h : LinksInto side links owners) {items : List L}
    (known : ∀ link ∈ items, owners.contains (side link) = true) : LinksInto side (links.extend items) owners := by
  intro link linked
  rcases HSet.mem_extend.1 linked with linked | added
  · exact h link linked
  · exact known link added

omit [DecidableEq L] in
theorem grow {owners' : Dict K' W} (h : LinksInto side links owners)
    (more : ∀ k', owners.contains k' = true → owners'.contains k' = true) : LinksInto side links owners' :=
  fun link linked => more _ (h link linked)

omit [DecidableEq L] in
theorem insertOwner (h : LinksInto side links owners) (k : K') (w : W) : LinksInto side links (owners.insert k w) :=
  h.grow fun _ had => Dict.contains_insert.2 (.inr had)

omit [DecidableEq L] in
/-- A key that no link names can go. -/
theorem removeOwner (h : LinksInto side links owners) {k : K'} (unnamed : ∀ link ∈ links, side link ≠ k) :
    LinksInto side links (owners.remove k) := by
  intro link linked
  rw [Dict.contains, Dict.get_remove, if_neg (unnamed link linked)]
  exact h link linked

end LinksInto
end TelemetryHub.Lib
