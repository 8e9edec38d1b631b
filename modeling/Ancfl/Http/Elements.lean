/-
  The elements of a request: the bytes that the actions of the parser use.

  * `Sound`: what the transitions of the table have in common (`next_sound`);
    a method is read from the first byte on, and the value of a header follows
    its name;
  * `marking`: the positions that the actions remember, and the first of those
    that they use;
  * `CharsToHttpMethod_congr`: what comes after the method does not matter.
-/
import Ancfl.Http.Http11Table
import Ancfl.Http.Message
import Mathlib.Data.List.Find
import Mathlib.Data.List.GetD

namespace Ancfl.Http

open Lib

namespace HttpParser

/-! ## The transitions -/

/-- The states in which a method is read. -/
def inMethod (cs : ℕ) : Bool := cs == 2 || (decide (175 ≤ cs) && decide (cs ≤ 193))

/-- The states in which the value of a header is read. -/
def inValue (cs : ℕ) : Bool := cs == 15 || cs == 16

/-- What the transitions for the bytes from `lo` to `hi` have in common. -/
structure Sound (cs lo hi : ℕ) (acts : List Action) (target : ℕ) : Prop where
  source_ne : cs ≠ error
  target_ne : target ≠ error ∧ target ≠ 1
  final : first_final ≤ target ↔ .done ∈ acts
  method : .request_method ∈ acts → acts = [.request_method] ∧ inMethod cs ∧ lo = 32 ∧ hi = 32
  to_method : inMethod target → cs = 1 ∧ acts = [.mark] ∨ inMethod cs ∧ acts = []
  value : .write_value ∈ acts → inValue cs
  to_value : inValue target → acts = [.write_field] ∨ inValue cs
  named : inValue cs → .start_field ∉ acts ∧ .write_field ∉ acts

instance (cs lo hi : ℕ) (acts : List Action) (target : ℕ) : Decidable (Sound cs lo hi acts target) :=
  decidable_of_iff (cs ≠ error ∧ (target ≠ error ∧ target ≠ 1) ∧ (first_final ≤ target ↔ .done ∈ acts) ∧
    (.request_method ∈ acts → acts = [.request_method] ∧ inMethod cs ∧ lo = 32 ∧ hi = 32) ∧
    (inMethod target → cs = 1 ∧ acts = [.mark] ∨ inMethod cs ∧ acts = []) ∧
    (.write_value ∈ acts → inValue cs) ∧ (inValue target → acts = [.write_field] ∨ inValue cs) ∧
    (inValue cs → .start_field ∉ acts ∧ .write_field ∉ acts))
    ⟨fun ⟨h1, h2, h3, h4, h5, h6, h7, h8⟩ => ⟨h1, h2, h3, h4, h5, h6, h7, h8⟩,
      fun ⟨h1, h2, h3, h4, h5, h6, h7, h8⟩ => ⟨h1, h2, h3, h4, h5, h6, h7, h8⟩⟩

theorem rows_sound : ∀ x ∈ rows.zipIdx, ∀ e ∈ x.1, Sound x.2 e.lo e.hi e.acts e.target := by
  decide +kernel

theorem more_delims_sound : ∀ x ∈ more_delims, Sound x.1 94 125 x.2.1 x.2.2 := by
  decide +kernel

section
variable {uri_relaxed : Bool} {cs target : ℕ} {c : UInt8} {acts : List Action}

theorem next_sound (h : (machine uri_relaxed).next cs c = some (acts, target)) :
    ∃ lo hi, lo ≤ c.toNat ∧ c.toNat ≤ hi ∧ Sound cs lo hi acts target := by
  simp only [machine] at h
  cases hrow : Edge.lookup (rows.getD cs []) c with
  | some t =>
    rw [hrow] at h
    obtain rfl : t = (acts, target) := Option.some.inj h
    obtain ⟨e, hfind, he⟩ := Option.map_eq_some_iff.1 hrow
    cases he
    have hmem := List.mem_of_find?_eq_some hfind
    have hbytes := List.find?_some hfind
    rw [Bool.and_eq_true, decide_eq_true_eq, decide_eq_true_eq] at hbytes
    have hcs : cs < rows.length := by
      by_contra hge
      rw [List.getD_eq_default _ _ (by omega)] at hmem
      cases hmem
    rw [List.getD_eq_getElem _ _ hcs] at hmem
    refine ⟨e.lo, e.hi, hbytes.1, hbytes.2, rows_sound (rows[cs], cs) ?_ e hmem⟩
    exact List.mem_zipIdx_iff_getElem?.2 (List.getElem?_eq_getElem hcs)
  | none =>
    rw [hrow] at h
    dsimp only at h
    split_ifs at h with hc
    obtain ⟨l₁, l₂, hsplit⟩ := List.lookup_eq_some_iff.1 h
    have hsound := more_delims_sound (cs, acts, target) (by simp [hsplit.1])
    simp only [Bool.and_eq_true, Bool.or_eq_true, beq_iff_eq] at hc
    refine ⟨94, 125, ?_, ?_, hsound⟩
    all_goals
      obtain ⟨-, (rfl | rfl) | rfl⟩ := hc
      all_goals decide

theorem lt_first_final (h : (machine uri_relaxed).next cs c = some (acts, target))
    (hstop : acts.any (machine uri_relaxed).stops = false) : target < first_final := by
  obtain ⟨lo, hi, -, -, hsound⟩ := next_sound h
  by_contra hge
  have hdone := hsound.final.1 (Nat.le_of_not_lt hge)
  rw [List.any_eq_false] at hstop
  exact hstop _ hdone rfl

/-- A scan that ends does not start in the state after an error, and ends in a final state. -/
theorem cs_of_stops {ε σ : Type} {act : Action → ℕ → σ → Except ε σ} {cs' p' : ℕ} {s' : σ} :
    ∀ {w : List UInt8} {p cs : ℕ} {s : σ},
      (machine uri_relaxed).scan act w p cs s = .ok (.stops cs' p' s') →
        cs ≠ error ∧ first_final ≤ cs'
  | [], _, _, _, h => by cases h
  | c :: w, p, cs, s, h => by
    rw [Scanner.scan] at h
    rcases hn : (machine uri_relaxed).next cs c with _ | ⟨acts, target⟩
    · rw [hn] at h; cases h
    rw [hn] at h
    dsimp only at h
    obtain ⟨lo, hi, -, -, hsound⟩ := next_sound hn
    rcases hp : Scanner.perform act p acts s with e | s₁
    · rw [hp] at h; cases h
    rw [hp] at h
    dsimp only at h
    split_ifs at h with hstop
    · cases h
      obtain ⟨a, ha, hstops⟩ := List.any_eq_true.1 hstop
      obtain rfl : a = .done := by simpa [machine] using hstops
      exact ⟨hsound.source_ne, hsound.final.2 ha⟩
    · exact ⟨hsound.source_ne, (cs_of_stops h).2⟩

end

/-! ## The marks -/

/-- The positions at which the marks were set last. -/
structure Marks where
  mark : ℕ := 0
  field_start : ℕ := 0
  /-- where `field_len` was set -/
  field_end : ℕ := 0
  query_start : ℕ := 0

/-- What an action at position `p` sets. -/
def Marks.track (a : Action) (p : ℕ) (γ : Marks) : Marks :=
  match a with
  | .mark | .start_value => { γ with mark := p }
  | .start_field => { γ with field_start := p }
  | .write_field => { γ with field_end := p }
  | .start_query => { γ with query_start := p }
  | _ => γ

/-- The first position of the bytes that an action uses. -/
def Marks.uses (a : Action) (γ : Marks) : Option ℕ :=
  match a with
  | .request_method | .request_path | .fragment | .http_version => some γ.mark
  | .query_string => some γ.query_start
  | .write_field => some γ.field_start
  | .write_value => some (min γ.field_start (min γ.field_end γ.mark))
  | _ => none

def marking : Scanner.Marking Action Marks := ⟨Marks.track, Marks.uses⟩

end HttpParser

/-! ## Methods -/

theorem strncmpEq_take : ∀ (n : ℕ) (s t : List UInt8), strncmpEq n (s.take n) t = strncmpEq n s t
  | 0, _, _ => rfl
  | _ + 1, [], _ => by rw [List.take_nil]
  | n + 1, a :: s, [] => rfl
  | n + 1, a :: s, b :: t => by
    rw [List.take_succ_cons, strncmpEq, strncmpEq, strncmpEq_take n s t]

/-- A name without spaces is compared with the characters before a space, and the space. -/
theorem strncmpEq_space : ∀ {name : List UInt8}, 32 ∉ name → ∀ (u t t' : List UInt8),
    strncmpEq name.length name (u ++ 32 :: t) = strncmpEq name.length name (u ++ 32 :: t')
  | [], _, _, _, _ => rfl
  | a :: name, h, [], t, t' => by
    have ha : (a == 32) = false := beq_eq_false_iff_ne.2 fun ha => h (by simp [ha])
    simp only [List.nil_append, List.length_cons, strncmpEq, ha, Bool.false_and]
  | a :: name, h, b :: u, t, t' => by
    simp only [List.cons_append, List.length_cons, strncmpEq]
    rw [strncmpEq_space (fun hmem => h (List.mem_cons_of_mem _ hmem)) u t t']

/-- No name but `M - SEARCH` begins with a letter and a space. -/
theorem strncmpEq_letter {name : List UInt8} (h : 32 ∉ name) (hlen : 1 < name.length) (a : UInt8)
    (ha : a ≠ 0) (t : List UInt8) : strncmpEq name.length name (a :: 32 :: t) = false := by
  match name, h, hlen with
  | x :: y :: name, h, _ =>
    have hy : (y == 32) = false := beq_eq_false_iff_ne.2 fun hy => h (by simp [hy])
    simp only [List.length_cons, strncmpEq, hy, Bool.false_and, Bool.or_false]
    by_cases hx : x = a
    · simp [hx, ha]
    · simp [hx]

theorem names : ∀ x ∈ HTTP_METHOD_MAP, x = (.MSEARCH, ascii "M - SEARCH") ∨
    (32 ∉ x.2 ∧ 1 < x.2.length) := by
  decide

theorem search_prefix {m : List UInt8}
    (h : strncmpEq (ascii "M - SEARCH").length (ascii "M - SEARCH") m = true) :
    ∃ t, m = 77 :: 32 :: 45 :: 32 :: 83 :: t := by
  have hname : ascii "M - SEARCH" = [77, 32, 45, 32, 83, 69, 65, 82, 67, 72] := by decide
  rw [hname] at h
  match m with
  | [] | [_] | [_, _] | [_, _, _] | [_, _, _, _] => simp [strncmpEq] at h
  | a :: b :: c :: d :: e :: t =>
    simp [strncmpEq] at h
    obtain ⟨rfl, rfl, rfl, rfl, rfl, -⟩ := h
    exact ⟨t, rfl⟩

/-- A method is known from the characters before the space after it. -/
theorem CharsToHttpMethod_congr {u t : List UInt8} (t' : List UInt8)
    (hvalid : CharsToHttpMethod (u ++ 32 :: t) ≠ .INVALID_METHOD)
    (hsearch : ∀ rest, u ++ 32 :: t ≠ 77 :: 32 :: 45 :: 32 :: 83 :: rest) :
    CharsToHttpMethod (u ++ 32 :: t') = CharsToHttpMethod (u ++ 32 :: t) := by
  have hwhole : strncmpEq (ascii "M - SEARCH").length (ascii "M - SEARCH") (u ++ 32 :: t) = false := by
    by_contra hmatch
    obtain ⟨rest, hrest⟩ := search_prefix (by simpa using hmatch)
    exact hsearch rest hrest
  unfold CharsToHttpMethod at hvalid ⊢
  congr 2
  refine List.find?_congr fun x hx => ?_
  rcases names x hx with rfl | ⟨hspace, -⟩
  · -- what begins like `M - SEARCH` up to the first space has no method
    rw [hwhole]
    by_contra hmatch
    obtain ⟨rest, hrest⟩ := search_prefix (by simpa using hmatch)
    obtain ⟨z, hz⟩ : ∃ z, u ++ 32 :: t = 77 :: 32 :: z := by
      match u, hrest with
      | [x], hrest => cases hrest; exact ⟨t, rfl⟩
      | x :: y :: u, hrest =>
        simp only [List.cons_append, List.cons.injEq] at hrest
        exact ⟨u ++ 32 :: t, by rw [hrest.1, hrest.2.1]; rfl⟩
    refine hvalid ?_
    rw [List.find?_eq_none.2]
    · rfl
    intro y hy
    rcases names y hy with rfl | ⟨hspace, hlen⟩
    · simp [hwhole]
    · rw [hz, strncmpEq_letter hspace hlen 77 (by decide) z]
      simp
  · exact strncmpEq_space hspace u t' t

end Ancfl.Http
