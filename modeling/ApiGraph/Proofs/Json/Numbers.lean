/-
# The integers of a text

Whatever a text is, an integer that it holds has at most 64 bits: so many a literal is read with
(`NumberParts.fits_value`), and longer ones are floating-point numbers.  The machine that builds
the tree keeps this from token to token (`fits_step`), so it holds of the whole tree
(`Source.fits_ofText`).
-/

import ApiGraph.Proofs.Json.Literals

namespace ApiGraph

namespace Token

/-! ## Literals -/

/-- Digits are gathered only as long as the number fits into a word. -/
theorem gatherWhole_le {n : Nat} (h : n ≤ wordMax) (cs : List Char) :
    (gatherWhole n cs).1 ≤ wordMax := by
  induction cs generalizing n with
  | nil => exact h
  | cons c cs ih =>
    rw [gatherWhole]
    split_ifs with large
    · exact h
    · exact ih (Nat.not_lt.1 large)

/-- **The value of a literal has at most 64 bits**, or it is a floating-point number. -/
theorem NumberParts.fits_value (p : NumberParts) {x : Scalar} (h : p.value = .ok x) : x.Fits := by
  have whole := gatherWhole_le (Nat.zero_le wordMax) p.whole
  have most : wordMax = 18446744073709551615 := rfl
  have half : Nat.pow 2 63 = 9223372036854775808 := rfl
  have all : Nat.pow 2 64 = 18446744073709551616 := rfl
  simp only [NumberParts.value] at h
  split_ifs at h with plain positive small
  · cases h
    simp only [Scalar.Fits]
    omega
  · cases h
    simp only [Scalar.Fits]
    omega
  all_goals
    split at h <;> cases h
    trivial

/-- An integer that reading the token gives has at most 64 bits. -/
def Fits (t : Token) : Prop :=
  ∀ x, t = .scalar (.ok x) → x.Fits

/-- A number that is scanned fits. -/
theorem fits_scanNumber (cs : List Char) : (scanNumber cs).1.Fits := by
  rw [scanNumber]
  split
  · rintro x h
    exact NumberParts.fits_value _ (Token.scalar.inj h)
  · rintro x ⟨⟩

/-- A word stands for a scalar that fits. -/
theorem fits_scanWord {value : Scalar} (h : value.Fits) (expected cs : List Char) :
    (scanWord value expected cs).1.Fits := by
  fun_induction scanWord value expected cs with
  | case1 => rintro _ ⟨⟩; exact h
  | case2 => rintro _ ⟨⟩
  | case3 => assumption
  | case4 => rintro _ ⟨⟩

/-- A string is no integer. -/
theorem fits_close (s : StringState) : s.close.Fits := by
  rw [StringState.close]
  split <;> rintro _ ⟨⟩

/-- What begins as a string is no integer. -/
theorem fits_scanString (s : StringState) (cs : List Char) : (scanString s cs).1.Fits := by
  fun_induction scanString s cs <;> first | assumption | exact fits_close _ | rintro _ ⟨⟩

/-- What is one of two tokens that fit, fits. -/
theorem fits_ite {p : Prop} [Decidable p] {a b : Token × List Char} (ha : a.1.Fits)
    (hb : b.1.Fits) : (if p then a else b).1.Fits := by
  split <;> assumption

/-- Every token fits, whatever it begins with. -/
theorem fits_scanOne (c : Char) (cs : List Char) : (scanOne c cs).1.Fits := by
  unfold scanOne
  iterate 6 refine fits_ite (by rintro _ ⟨⟩) ?_
  refine fits_ite (fits_scanString _ cs) ?_
  iterate 3 refine fits_ite (fits_scanWord (by trivial) _ cs) ?_
  exact fits_ite (fits_scanNumber (c :: cs)) (by rintro _ ⟨⟩)

/-- All tokens of a text fit. -/
theorem fits_scan (cs : List Char) : ∀ t ∈ scan cs, t.Fits := by
  fun_induction scan cs with
  | case1 => simp
  | case2 c cs blank ih => exact ih
  | case3 c cs dense ih => exact List.forall_mem_cons.2 ⟨fits_scanOne c cs, ih⟩

end Token

/-! ## Trees -/

/-- The integers of a tree have at most 64 bits. -/
inductive Source.Fits : Source → Prop where
  | scalar {value : Except Fault Scalar} (h : ∀ x, value = .ok x → x.Fits) : Fits (.scalar value)
  | string (text : Except Fault String) : Fits (.string text)
  | broken (reading skipping : Fault) : Fits (.broken reading skipping)
  | array {items : List Source} (h : ∀ s ∈ items, Fits s) (ending : ArrayEnd) :
    Fits (.array items ending)
  | object {members : List (Except Fault String × Source)} (h : ∀ m ∈ members, Fits m.2)
    (ending : ObjectEnd) : Fits (.object members ending)

namespace Source

/-- What a container holds so far fits. -/
def Frame.Fits : Frame → Prop
  | .array items => ∀ s ∈ items, s.Fits
  | .member members _ => ∀ m ∈ members, m.2.Fits

/-- What the machine has read so far fits. -/
def Reading.Fits : Reading → Prop
  | .value outer => ∀ f ∈ outer, f.Fits
  | .item items _ outer => (∀ s ∈ items, s.Fits) ∧ ∀ f ∈ outer, f.Fits
  | .afterItem items outer => (∀ s ∈ items, s.Fits) ∧ ∀ f ∈ outer, f.Fits
  | .key members _ outer => (∀ m ∈ members, m.2.Fits) ∧ ∀ f ∈ outer, f.Fits
  | .colon members _ outer => (∀ m ∈ members, m.2.Fits) ∧ ∀ f ∈ outer, f.Fits
  | .afterMember members outer => (∀ m ∈ members, m.2.Fits) ∧ ∀ f ∈ outer, f.Fits

/-- What a token led to fits. -/
def Progress.Fits : Progress → Prop
  | .next state => state.Fits
  | .complete v => v.Fits
  | .stuck v => v.Fits

/-- An array of trees that fit, fits. -/
theorem fits_closed {items : List Source} (h : ∀ s ∈ items, s.Fits) (ending : ArrayEnd) :
    (Source.array items.reverse ending).Fits :=
  .array (fun s hs => h s (List.mem_reverse.1 hs)) ending

/-- An object of trees that fit, fits. -/
theorem fits_closed_object {members : List (Except Fault String × Source)}
    (h : ∀ m ∈ members, m.2.Fits) (ending : ObjectEnd) :
    (Source.object members.reverse ending).Fits :=
  .object (fun m hm => h m (List.mem_reverse.1 hm)) ending

/-- Containers that are closed around a tree that fits, fit. -/
theorem fits_unwind {v : Source} (h : v.Fits) {outer : List Frame} (ho : ∀ f ∈ outer, f.Fits) :
    (unwind v outer).Fits := by
  induction outer generalizing v with
  | nil => exact h
  | cons f outer ih =>
    obtain ⟨first, others⟩ := List.forall_mem_cons.1 ho
    cases f with
    | array items => exact ih (fits_closed (List.forall_mem_cons.2 ⟨h, first⟩) _) others
    | member members key =>
      exact ih (fits_closed_object (List.forall_mem_cons.2 ⟨h, first⟩) _) others

/-- A tree that is put into a container leaves a state that fits. -/
theorem fits_place {v : Source} (h : v.Fits) {outer : List Frame} (ho : ∀ f ∈ outer, f.Fits) :
    (place v outer).Fits := by
  cases outer with
  | nil => exact h
  | cons f outer =>
    obtain ⟨first, others⟩ := List.forall_mem_cons.1 ho
    cases f with
    | array items => exact ⟨List.forall_mem_cons.2 ⟨h, first⟩, others⟩
    | member members key => exact ⟨List.forall_mem_cons.2 ⟨h, first⟩, others⟩

/-- A token where a value has to come leads to a state that fits. -/
theorem fits_stepValue {outer : List Frame} (h : ∀ f ∈ outer, f.Fits) {t : Token} (ht : t.Fits) :
    (stepValue outer t).Fits := by
  cases t with
  | openArray => exact ⟨by simp, h⟩
  | openObject => exact ⟨by simp, h⟩
  | scalar value => exact fits_place (.scalar fun x hx => ht x (by rw [hx])) h
  | string text => exact fits_place (.string text) h
  | _ => exact fits_unwind (.broken _ _) h

/-- **One token keeps what was read within 64 bits.** -/
theorem fits_step {state : Reading} (h : state.Fits) {t : Token} (ht : t.Fits) :
    (state.step t).Fits := by
  cases state with
  | value outer => exact fits_stepValue h ht
  | item items afterComma outer =>
    have inside : ∀ f ∈ Frame.array items :: outer, f.Fits := List.forall_mem_cons.2 ⟨h.1, h.2⟩
    have value := fits_stepValue inside ht
    cases t with
    | closeArray =>
      cases afterComma with
      | false => exact fits_place (fits_closed h.1 _) h.2
      | true => exact fits_unwind (fits_closed h.1 _) h.2
    | _ => cases afterComma <;> exact value
  | afterItem items outer =>
    cases t with
    | comma => exact h
    | closeArray => exact fits_place (fits_closed h.1 _) h.2
    | _ => exact fits_unwind (fits_closed h.1 _) h.2
  | key members afterComma outer =>
    cases t with
    | closeObject =>
      cases afterComma with
      | false => exact fits_place (fits_closed_object h.1 _) h.2
      | true => exact fits_unwind (fits_closed_object h.1 _) h.2
    | string text => cases afterComma <;> exact h
    | _ => cases afterComma <;> exact fits_unwind (fits_closed_object h.1 _) h.2
  | colon members key outer =>
    cases t with
    | colon => exact List.forall_mem_cons.2 h
    | _ => exact fits_unwind (.broken _ _) (List.forall_mem_cons.2 h)
  | afterMember members outer =>
    cases t with
    | comma => exact h
    | closeObject => exact fits_place (fits_closed_object h.1 _) h.2
    | _ => exact fits_unwind (fits_closed_object h.1 _) h.2

/-- Where the tokens come to an end, the tree fits. -/
theorem fits_finish {state : Reading} (h : state.Fits) : state.finish.Fits := by
  cases state with
  | value outer => exact fits_unwind (.broken _ _) h
  | item items afterComma outer => exact fits_unwind (fits_closed h.1 _) h.2
  | afterItem items outer => exact fits_unwind (fits_closed h.1 _) h.2
  | key members afterComma outer => exact fits_unwind (fits_closed_object h.1 _) h.2
  | colon members key outer =>
    exact fits_unwind (.broken _ _) (List.forall_mem_cons.2 h)
  | afterMember members outer => exact fits_unwind (fits_closed_object h.1 _) h.2

/-- From a state that fits, tokens that fit lead to a tree that fits. -/
theorem fits_ofTokensFrom {ts : List Token} (each : ∀ t ∈ ts, t.Fits) {state : Reading}
    (h : state.Fits) : (ofTokensFrom state ts).1.Fits := by
  induction ts generalizing state with
  | nil => exact fits_finish h
  | cons t ts ih =>
    obtain ⟨first, others⟩ := List.forall_mem_cons.1 each
    have step := fits_step h first
    rw [ofTokensFrom]
    split
    · rename_i state' next
      rw [next] at step
      exact ih others step
    · rename_i v complete
      rwa [complete] at step
    · rename_i v stuck
      rwa [stuck] at step

/-- **The integers of a text have at most 64 bits.** -/
theorem fits_ofText (text : String) : (ofText text).1.Fits := by
  have start : (Reading.value []).Fits := by rintro _ ⟨⟩
  exact fits_ofTokensFrom (Token.fits_scan text.toList) start

end Source
end ApiGraph
