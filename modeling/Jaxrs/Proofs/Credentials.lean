import Jaxrs.Credentials
import Jaxrs.Proofs.Base64
import Jaxrs.Proofs.Lookup
import Jaxrs.Proofs.Text.ByteOrder
import Jaxrs.Proofs.Text.Segment
import Mathlib.Data.List.Induction

/-!
Credentials as they are found and sent. Under every name there is the last value that was given for
it (`find?_ofPairs`). The names under which two providers look are different (`name_inj`), although
a provider's own name may hold slashes. A token tells the user name and the password it was made of,
as long as the user name has no colon (`basicToken_inj`). It consists of visible characters, so that
there is a header whatever the credentials are (`headerLine_eq_ok`).
-/

set_option autoImplicit false

namespace Jaxrs

namespace HeaderRules

/-- Texts of visible characters can be sent and shown. -/
structure AcceptsVisible (rules : HeaderRules) : Prop where
  accepts : ∀ s : String, s.toList.all isVisible = true → rules.accepts s = true
  prints : ∀ s : String, s.toList.all isVisible = true → rules.prints s = true

theorem http_acceptsVisible : http.AcceptsVisible where
  accepts s h := by
    refine List.all_eq_true.mpr fun c hc ↦ ?_
    have hvisible : ' ' ≤ c ∧ c ≤ '~' := by
      simpa [isVisible] using List.all_eq_true.mp h c hc
    have hdelete : c ≠ '\x7f' := by
      rintro rfl
      exact absurd hvisible.2 (by decide)
    simp [hvisible.1, hdelete]
  prints s h := by
    refine List.all_eq_true.mpr fun c hc ↦ ?_
    rw [List.all_eq_true.mp h c hc, Bool.or_true]

end HeaderRules

namespace Credentials

variable {c : Credentials}

/-! ### Values -/

theorem find?_put (c : Credentials) (name value other : String) :
    (c.put name value).find? other = if other = name then some value else c.find? other := by
  rw [find?, find?, put]
  split
  · rename_i h
    rw [h, lookup_put_self]
  · rename_i h
    rw [lookup_put_of_ne h]

theorem ofPairs_concat (pairs : List (String × String)) (pair : String × String) :
    ofPairs (pairs ++ [pair]) = (ofPairs pairs).put pair.1 pair.2 := by
  rw [ofPairs, List.foldl_append]
  rfl

/-- Looking from the end, the first value under a name is the one that counts. -/
theorem find?_ofPairs (pairs : List (String × String)) (name : String) :
    (ofPairs pairs).find? name = pairs.reverse.lookup name := by
  induction pairs using List.reverseRecOn with
  | nil => rfl
  | append_singleton pairs pair ih =>
    rw [ofPairs_concat, find?_put, ih, List.reverse_concat, List.lookup_cons]
    split
    · rename_i h
      simp [h]
    · rename_i h
      simp [beq_eq_false_iff_ne.mpr h]

/-! ### Names of values -/

theorem value_eq (c : Credentials) (provider key : String) :
    c.value provider key = (c.find? (provider ++ ("/" ++ key))).getD "" := by
  rw [value, String.append_assoc]

/-- A slash ends the name of the provider, whatever slashes it holds itself, since the key has
none. -/
theorem name_inj {p q key key' : String} (hkey : '/' ∉ key.toList) (hkey' : '/' ∉ key'.toList) :
    p ++ "/" ++ key = q ++ "/" ++ key' ↔ p = q ∧ key = key' := by
  constructor
  · intro h
    have hsegments := congrArg (Text.segments '/') h
    rw [Text.slash_eq_singleton, Text.segments_append, Text.segments_append,
      Text.segments_eq_singleton hkey, Text.segments_eq_singleton hkey'] at hsegments
    obtain ⟨hname, hlast⟩ := List.append_inj' hsegments rfl
    refine ⟨?_, List.singleton_inj.mp hlast⟩
    rw [← Text.joinWith_segments '/' p, hname, Text.joinWith_segments]
  · rintro ⟨rfl, rfl⟩
    rfl

/-! ### Tokens -/

theorem bytes_injective : Function.Injective Text.bytes := by
  intro s t h
  have hbytes : s.toUTF8 = t.toUTF8 := ByteArray.ext (Array.toList_inj.mp h)
  exact String.toByteArray_inj.mp hbytes

theorem colon_eq_singleton : ":" = String.singleton ':' := by
  decide

/-- The user name ends at the first colon. -/
theorem join_colon_inj {u v p q : String} (hu : ':' ∉ u.toList) (hv : ':' ∉ v.toList) :
    u ++ ":" ++ p = v ++ ":" ++ q ↔ u = v ∧ p = q := by
  constructor
  · intro h
    have hsegments := congrArg (Text.segments ':') h
    rw [colon_eq_singleton, Text.segments_append, Text.segments_append,
      Text.segments_eq_singleton hu, Text.segments_eq_singleton hv] at hsegments
    obtain ⟨hname, hrest⟩ := List.append_inj hsegments rfl
    refine ⟨List.singleton_inj.mp hname, ?_⟩
    rw [← Text.joinWith_segments ':' p, hrest, Text.joinWith_segments]
  · rintro ⟨rfl, rfl⟩
    rfl

theorem basicToken_inj {u v p q : String} (hu : ':' ∉ u.toList) (hv : ':' ∉ v.toList) :
    basicToken u p = basicToken v q ↔ u = v ∧ p = q := by
  rw [← join_colon_inj hu hv, basicToken, basicToken, String.append_right_inj,
    String.ofList_inj, Base64.encode_injective.eq_iff]
  exact bytes_injective.eq_iff

/-! ### There always is a header -/

theorem isVisible_digit (n : Nat) : HeaderRules.isVisible (Base64.digit n) = true := by
  have hdigits : ∀ n < 62, HeaderRules.isVisible (Base64.digit n) = true := by decide
  by_cases hn : n < 62
  · exact hdigits n hn
  · have hsmaller : ¬ n < 26 ∧ ¬ n < 52 := by omega
    rw [Base64.digit, if_neg hsmaller.1, if_neg hsmaller.2, if_neg hn]
    split <;> decide

theorem all_isVisible_encode (bytes : List UInt8) :
    (Base64.encode bytes).all HeaderRules.isVisible = true := by
  have hpad : HeaderRules.isVisible '=' = true := by decide
  fun_induction Base64.encode bytes with
  | case1 => rfl
  | case2 => simp [isVisible_digit, hpad]
  | case3 => simp [isVisible_digit, hpad]
  | case4 => simp_all [isVisible_digit]

theorem all_isVisible_token (c : Credentials) (provider : String) :
    (c.token provider).toList.all HeaderRules.isVisible = true := by
  rw [token, basicToken, String.toList_append, List.all_append, Bool.and_eq_true]
  refine ⟨by decide, ?_⟩
  rw [String.toList_ofList]
  exact all_isVisible_encode _

variable {rules : HeaderRules} (h : rules.AcceptsVisible)

include h

theorem headerValue_eq_ok (c : Credentials) (provider : String) :
    c.headerValue rules provider = .ok (c.token provider) :=
  if_pos (h.accepts _ (c.all_isVisible_token provider))

theorem headerLine_eq_ok (c : Credentials) (provider : String) :
    c.headerLine rules provider = .ok ("Authorization: " ++ c.token provider) := by
  rw [headerLine, headerValue_eq_ok h]
  exact if_pos (h.prints _ (c.all_isVisible_token provider))

end Credentials

end Jaxrs
