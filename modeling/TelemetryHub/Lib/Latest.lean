import TelemetryHub.Lib.Dict

/-!
# Keeping the latest

A map from keys to stamped values, filled by offers: an offer enters its value
unless a later one is there. One more offer among others changes the value at
its own key or nothing at all.
-/

namespace TelemetryHub.Lib

/-- A value offered for a key, with the stamp it is judged by. -/
structure Offer (K V : Type) where
  key : K
  value : V
  stamp : Int

namespace Dict

variable {K V : Type} [DecidableEq K]

/-- Enter an offer, if there is one and no later value holds its key. -/
def offer (m : Dict K (V × Int)) : Option (Offer K V) → Dict K (V × Int)
  | none => m
  | some o => if (m.get o.key).all (fun held => held.2 ≤ o.stamp) then m.insert o.key (o.value, o.stamp) else m

/-- `m'` is `m` but for the offer, which stands in it no earlier than what `m` has there. -/
def Outbid (o : Option (Offer K V)) (m m' : Dict K (V × Int)) (k : K) : Prop :=
  m'.get k = m.get k ∨
    ∃ b ∈ o, b.key = k ∧ m'.get k = some (b.value, b.stamp) ∧ ∀ held ∈ m.get k, held.2 ≤ b.stamp

theorem get_offer (m : Dict K (V × Int)) (b : Offer K V) (k : K) :
    (m.offer (some b)).get k =
      if b.key = k ∧ (m.get k).all (fun held => held.2 ≤ b.stamp) then some (b.value, b.stamp) else m.get k := by
  show (if (m.get b.key).all (fun held => held.2 ≤ b.stamp) then m.insert b.key (b.value, b.stamp) else m).get k = _
  by_cases hk : b.key = k
  · subst hk
    by_cases hall : (m.get b.key).all (fun held => held.2 ≤ b.stamp) = true
    · rw [if_pos hall, if_pos ⟨rfl, hall⟩, get_insert_self]
    · simp only [hall, and_false, Bool.false_eq_true, if_false]
  · simp only [hk, false_and, if_false]
    split
    · exact get_insert_ne fun h => hk h.symm
    · rfl

theorem outbid_offer (o : Option (Offer K V)) (m : Dict K (V × Int)) (k : K) :
    Outbid o m (m.offer o) k := by
  cases o with
  | none => exact .inl rfl
  | some b =>
    unfold Outbid
    rw [get_offer]
    split
    · next h =>
      refine .inr ⟨b, rfl, h.1, rfl, fun held hheld => ?_⟩
      have hall := h.2
      rw [Option.mem_def.1 hheld] at hall
      simpa using hall
    · exact .inl rfl

/-- Both maps take the same further offer. -/
theorem Outbid.offer {o : Option (Offer K V)} {m m' : Dict K (V × Int)} {k : K} (h : Outbid o m m' k)
    (o' : Option (Offer K V)) : Outbid o (m.offer o') (m'.offer o') k := by
  cases o' with
  | none => exact h
  | some c =>
    unfold Outbid
    rw [get_offer, get_offer]
    obtain heq | ⟨b, hb, hkey, hget, hlate⟩ := h
    · left
      rw [heq]
    · by_cases hc : c.key = k
      · by_cases hafter : b.stamp ≤ c.stamp
        · -- the further offer is late enough for both maps
          left
          have hheld : (m.get k).all (fun held => held.2 ≤ c.stamp) = true := by
            cases hm : m.get k with
            | none => rfl
            | some held =>
              have := hlate held hm
              simp only [Option.all_some, decide_eq_true_eq]
              omega
          rw [hget, if_pos ⟨hc, by simpa using hafter⟩, if_pos ⟨hc, hheld⟩]
        · right
          refine ⟨b, hb, hkey, ?_, ?_⟩
          · rw [hget, if_neg (fun h => hafter (by simpa using h.2))]
          · intro held hheld
            split at hheld
            · cases hheld
              show c.stamp ≤ b.stamp
              omega
            · exact hlate held hheld
      · right
        refine ⟨b, hb, hkey, ?_, ?_⟩
        · rw [if_neg (fun h => hc h.1), hget]
        · rw [if_neg (fun h => hc h.1)]
          exact hlate

end Dict
end TelemetryHub.Lib
