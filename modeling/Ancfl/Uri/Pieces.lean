/-
  What the machine does with the components of a URI, one after the other.

  * the words of a production lead the machine through its states as `Leads`
    finds by evaluation; only the first byte of a component has an action, the
    others come with the character after it (`Ends`);
  * `resetsMark`: the user information begins like a host with a port, so the
    mark is set again; `parse_userinfo`: what is saved then;
  * `parse_host`, `parse_port`, `parse_rest`: the components that follow.
-/
import Ancfl.Http.ResponseElements
import Ancfl.Lib.Automaton
import Ancfl.Uri.Create
import Ancfl.Uri.Grammar

namespace Ancfl.UriParser

open Lib Lib.Automaton Http Computability

/-! ## Words of the grammar -/

theorem kstar_add_le {K : Type} [KleeneAlgebra K] (a b : K) : (a + b)∗ ≤ a∗ + a∗ * (b * (a + b)∗) := by
  refine kstar_le_of_mul_le_right (one_le_kstar.trans le_self_add) ?_
  rw [add_mul, add_le_iff]
  constructor
  · rw [mul_add, ← mul_assoc]
    gcongr
    · exact mul_kstar_le_kstar
    · exact mul_kstar_le_kstar
  · refine le_add_left ?_
    have hsub : a∗ + a∗ * (b * (a + b)∗) ≤ (a + b)∗ := by
      have ha : a∗ ≤ (a + b)∗ := kstar_mono le_self_add
      have hb : b * (a + b)∗ ≤ (a + b)∗ := (mul_le_mul_left le_add_self _).trans mul_kstar_le_kstar
      refine add_le ha ?_
      calc a∗ * (b * (a + b)∗) ≤ (a + b)∗ * (a + b)∗ := mul_le_mul' ha hb
        _ = (a + b)∗ := kstar_mul_kstar _
    calc b * (a∗ + a∗ * (b * (a + b)∗)) ≤ b * (a + b)∗ := mul_le_mul_right hsub _
      _ = 1 * (b * (a + b)∗) := (one_mul _).symm
      _ ≤ a∗ * (b * (a + b)∗) := mul_le_mul_left one_le_kstar _

/-- All bytes of a word satisfy `p`. -/
def only (p : UInt8 → Bool) (_ : Unit) (c : UInt8) : Option Unit := if p c then some () else none

theorem all_of_only {p : UInt8 → Bool} : ∀ {w : List UInt8} {s t : Unit},
    run (only p) w s = some t → ∀ c ∈ w, p c = true
  | [], _, _, _, _, hc => by cases hc
  | b :: w, s, t, h, c, hc => by
    obtain ⟨s', hs', hrun⟩ := Option.bind_eq_some_iff.1 h
    rcases List.mem_cons.1 hc with rfl | hc
    · by_contra hp
      rw [only, if_neg hp] at hs'
      cases hs'
    · exact all_of_only hrun c hc

theorem mem_only {p : UInt8 → Bool} {r : Regex} (h : Leads (only p) r [()] fun _ => True)
    {w : List UInt8} (hw : w ∈ r.matches') : ∀ c ∈ w, p c = true := by
  obtain ⟨_, -, hrun⟩ := h.run hw (List.mem_singleton_self ())
  exact all_of_only hrun

theorem isDigit_of_port {d : List UInt8} (h : d ∈ port.matches') : ∀ c ∈ d, isDigit 10 c = true :=
  mem_only (by decide +kernel) h

theorem colon_of_reg_name {x : List UInt8} (h : x ∈ reg_name.matches') : 58 ∉ x := by
  intro hmem
  have hne := mem_only (p := (· != 58)) (by decide +kernel) h 58 hmem
  cases hne

/-- The tokens of `userinfo` but the digits. -/
def userinfo_nd : Regex := unreserved_nd + pct_encoded + sub_delims + byte ':'

/-- Up to the first colon the user information is a name. -/
theorem userinfo_cases {u : List UInt8} (h : u ∈ userinfo.matches') : u ∈ reg_name.matches' ∨
    ∃ x ∈ reg_name.matches', ∃ y ∈ userinfo.matches', u = x ++ 58 :: y := by
  have hle : userinfo.matches' ≤ reg_name.matches' +
      reg_name.matches' * ((byte ':').matches' * userinfo.matches') := kstar_add_le _ _
  rcases hle h with h | h
  · exact .inl h
  · obtain ⟨x, hx, v, hv, rfl⟩ := Language.mem_mul.1 h
    obtain ⟨c, hc, y, hy, rfl⟩ := Language.mem_mul.1 hv
    cases hc
    exact .inr ⟨x, hx, y, hy, rfl⟩

theorem userinfo_head {y : List UInt8} (h : y ∈ userinfo.matches') :
    y ∈ (digit * userinfo).matches' ∨ y ∈ (1 + userinfo_nd * userinfo).matches' := by
  have hstar : userinfo.matches' = 1 + (unreserved + pct_encoded + sub_delims + byte ':').matches' *
      userinfo.matches' := (one_add_mul_kstar (a := _)).symm
  rw [hstar] at h
  rcases h with h | h
  · exact .inr (.inl h)
  · obtain ⟨token, htoken, v, hv, rfl⟩ := Language.mem_mul.1 h
    rcases htoken with (((hdigit | htoken) | htoken) | htoken) | htoken
    · exact .inl ⟨token, hdigit, v, hv, rfl⟩
    · exact .inr (.inr ⟨token, .inl (.inl (.inl htoken)), v, hv, rfl⟩)
    · exact .inr (.inr ⟨token, .inl (.inl (.inr htoken)), v, hv, rfl⟩)
    · exact .inr (.inr ⟨token, .inl (.inr htoken), v, hv, rfl⟩)
    · exact .inr (.inr ⟨token, .inr htoken, v, hv, rfl⟩)

/-- The first byte of a word satisfies `p`; the state tells whether there was one. -/
def first (p : UInt8 → Bool) (s : Bool) (c : UInt8) : Option Bool := if s || p c then some true else none

theorem head_first {p : UInt8 → Bool} {r : Regex} {P : Bool → Prop} (h : Leads (first p) r [false] P) :
    ∀ {w : List UInt8}, w ∈ r.matches' → (w = [] ∧ P false) ∨ ∃ c t, w = c :: t ∧ p c = true
  | [], hw => by
    obtain ⟨s, hs, hrun⟩ := h.run hw (List.mem_singleton_self false)
    cases hrun
    exact .inl ⟨rfl, hs⟩
  | c :: t, hw => by
    obtain ⟨s, -, hrun⟩ := h.run hw (List.mem_singleton_self false)
    obtain ⟨_, hc, -⟩ := Option.bind_eq_some_iff.1 hrun
    refine .inr ⟨c, t, rfl, ?_⟩
    by_contra hp
    rw [first, Bool.false_or, if_neg hp] at hc
    cases hc

theorem path_cases {path : List UInt8} (h : path ∈ path_abempty.matches') : path = [] ∨
    ∃ t ∈ (segment * (byte '/' * segment).star).matches', path = 47 :: t := by
  have hstar : path ∈ (byte '/' * segment).star.matches' := by
    obtain ⟨u, hu, v, hv, rfl⟩ := Language.mem_mul.1 h
    rcases hu with rfl | hu
    · exact hv
    · exact mul_kstar_le_kstar (a := (byte '/' * segment).matches') ⟨u, hu, v, hv, rfl⟩
  rw [RegularExpression.matches'_star, ← one_add_mul_kstar] at hstar
  rcases hstar with rfl | h
  · exact .inl rfl
  · obtain ⟨u, hu, v, hv, rfl⟩ := Language.mem_mul.1 h
    obtain ⟨c, hc, t, ht, rfl⟩ := Language.mem_mul.1 hu
    cases hc
    exact .inr ⟨t ++ v, ⟨t, ht, v, hv, rfl⟩, rfl⟩

/-! ## Steps of the machine -/

section
variable {uristr pre w v : List UInt8} {c : UInt8} {p cs target : ℕ} {s s' : State} {acts : List Action}

@[simp] theorem perform_cons (a : Action) : Scanner.perform (act uristr) p (a :: acts) s =
    match act uristr a p s with
    | .ok s' => Scanner.perform (act uristr) p acts s'
    | .error e => .error e := by
  rw [Scanner.perform]
  cases act uristr a p s with
  | ok s' => rfl
  | error e => rfl

@[simp] theorem perform_nil : Scanner.perform (act uristr) p [] s = .ok s := rfl

theorem parse_cons (h : machine.next cs c = some (acts, target))
    (hs : Scanner.perform (act uristr) p acts s = .ok s') :
    parse uristr (c :: w) p cs s = parse uristr w (p + 1) target s' := by
  have hstops : acts.any machine.stops = false := List.any_eq_false.2 fun _ _ => Bool.false_ne_true
  rw [parse, Scanner.scan_cons h, hs, parse]
  simp only [hstops, Bool.false_eq_true, if_false]

theorem parse_cons_error (h : machine.next cs c = some (acts, target)) {e : NullString}
    (hs : Scanner.perform (act uristr) p acts s = .error e) :
    parse uristr (c :: w) p cs s = .error e := by
  rw [parse, Scanner.scan_cons h, hs]

theorem parse_quiet (h : run (quiet machine) w cs = some target) :
    parse uristr (w ++ v) p cs s = parse uristr v (p + w.length) target s := by
  rw [parse, scan_quiet v h, parse]

/-- The words of a production with a mark at the first byte. -/
theorem parse_marked {r : Regex} {P : ℕ → Prop} {a : Action} (ha : a = .marku ∨ a = .markh)
    (h : Leads (enter machine cs [a]) r [none] fun x => ∀ t ∈ x, P t) (hw : w ∈ r.matches')
    (hne : w ≠ []) : ∃ t, P t ∧ ∀ v p s, parse uristr (w ++ v) p cs s =
      parse uristr v (p + w.length) t { s with mark := some p } := by
  obtain ⟨t, ht, hscan⟩ : ∃ t, P t ∧ ∀ (v : List UInt8) (p : ℕ) (s s' : State),
      Scanner.perform (act uristr) p [a] s = .ok s' →
        machine.scan (act uristr) (w ++ v) p cs s =
          machine.scan (act uristr) v (p + w.length) t s' := h.scan hw hne rfl
  refine ⟨t, ht, fun v p s => ?_⟩
  rw [parse, parse, hscan v p s { s with mark := some p }]
  rcases ha with rfl | rfl
  · rfl
  · rfl

theorem marked_mid (h : uristr = pre ++ (w ++ v)) : marked uristr pre.length (pre.length + w.length) = w := by
  rw [marked, h, List.drop_left, Nat.add_sub_cancel_left, List.take_left]

theorem marked_nil : marked uristr p p = [] := by
  rw [marked, Nat.sub_self, List.take_zero]

end

/-! ## Path, query and fragment -/

/-- A component ends before a fragment or the end of the string, with these actions. -/
structure EndsBefore (cs : ℕ) (acts : List Action) : Prop where
  final : first_final ≤ cs
  hash : machine.next cs 35 = some (acts, 453)
  eof : eofActions cs = acts

/-- A component ends before a query as well. -/
structure EndsPath (cs : ℕ) (acts : List Action) : Prop extends EndsBefore cs acts where
  question : machine.next cs 63 = some (acts, 456)

/-- The authority ends before a path, and before what follows an empty path. -/
structure Ends (cs : ℕ) (acts : List Action) : Prop extends
    EndsPath cs (acts ++ [.save_path]) where
  slash : machine.next cs 47 = some (acts, 513)

instance (cs : ℕ) (acts : List Action) : Decidable (EndsBefore cs acts) :=
  decidable_of_iff (first_final ≤ cs ∧ machine.next cs 35 = some (acts, 453) ∧ eofActions cs = acts)
    ⟨fun ⟨h1, h2, h3⟩ => ⟨h1, h2, h3⟩, fun ⟨h1, h2, h3⟩ => ⟨h1, h2, h3⟩⟩

instance (cs : ℕ) (acts : List Action) : Decidable (EndsPath cs acts) :=
  decidable_of_iff (EndsBefore cs acts ∧ machine.next cs 63 = some (acts, 456))
    ⟨fun ⟨h1, h2⟩ => ⟨h1, h2⟩, fun ⟨h1, h2⟩ => ⟨h1, h2⟩⟩

instance (cs : ℕ) (acts : List Action) : Decidable (Ends cs acts) :=
  decidable_of_iff (EndsPath cs (acts ++ [.save_path]) ∧ machine.next cs 47 = some (acts, 513))
    ⟨fun ⟨h1, h2⟩ => ⟨h1, h2⟩, fun ⟨h1, h2⟩ => ⟨h1, h2⟩⟩

/-- A component that may be absent, after the character before it. -/
def after (c : UInt8) : Option (List UInt8) → List UInt8
  | none => []
  | some w => c :: w

def addFragment (uri : Uri) : Option (List UInt8) → Uri
  | none => uri
  | some w => { uri with fragment := w }

def addQuery (uri : Uri) : Option (List UInt8) → Uri
  | none => uri
  | some w => { uri with query := w }

section
variable {uristr pre body : List UInt8} {cs : ℕ} {s s₁ : State} {acts : List Action}
  {q f : Option (List UInt8)}

theorem parse_end (hcs : first_final ≤ cs) {r : Except NullString State}
    (hs : Scanner.perform (act uristr) uristr.length (eofActions cs) s = r) :
    parse uristr [] uristr.length cs s = r.map fun s => some s.uri := by
  have hne : cs ≠ error := (Nat.lt_of_lt_of_le (by decide) hcs).ne'
  rw [parse, Scanner.scan]
  simp only [finish, hs, if_neg hne, if_pos hcs]
  cases r with
  | ok s => rfl
  | error e => rfl

theorem parse_fragment (hpre : uristr = pre ++ body) (hbody : body ∈ fragment.matches') :
    parse uristr body pre.length 453 s = .ok (some { s.uri with fragment := body }) := by
  have hlen : uristr.length = pre.length + body.length := by rw [hpre, List.length_append]
  have hmid : marked uristr pre.length (pre.length + body.length) = body :=
    marked_mid (v := []) (by rw [hpre, List.append_nil])
  by_cases hne : body = []
  · subst hne
    have heof : eofActions 453 = [.marku, .save_fragment] := by decide +kernel
    rw [List.length_nil, Nat.add_zero] at hlen hmid
    rw [← hlen] at hmid ⊢
    refine (parse_end (by decide) rfl).trans ?_
    simp only [heof, perform_cons, perform_nil, act, save, hmid, Except.map]
  · have hleads : Leads (enter machine 453 [.marku]) fragment [none] fun x =>
        ∀ t ∈ x, first_final ≤ t ∧ eofActions t = [.save_fragment] := by
      decide +kernel
    obtain ⟨t, ⟨ht, heof⟩, hparse⟩ := parse_marked (.inl rfl) hleads hbody hne
    have h := hparse [] pre.length s
    rw [List.append_nil] at h
    rw [h]
    rw [← hlen] at hmid ⊢
    refine (parse_end ht rfl).trans ?_
    simp only [heof, perform_cons, perform_nil, act, save, hmid, Except.map]

/-- What comes after the last component but the fragment. -/
theorem EndsBefore.parse (h : EndsBefore cs acts) (hpre : uristr = pre ++ after 35 f)
    (hf : ∀ w ∈ f, w ∈ fragment.matches') {r : Except NullString State}
    (hs : Scanner.perform (act uristr) pre.length acts s = r) :
    parse uristr (after 35 f) pre.length cs s = r.map fun s => some (addFragment s.uri f) := by
  cases f with
  | none =>
    have hlen : pre.length = uristr.length := by rw [hpre, after, List.append_nil]
    rw [hlen] at hs ⊢
    refine parse_end h.final ?_
    rw [h.eof, hs]
  | some w =>
    cases r with
    | error e => exact parse_cons_error h.hash hs
    | ok s₁ =>
      rw [after, parse_cons h.hash hs]
      have hpre' : uristr = (pre ++ [35]) ++ w := by rw [hpre, after, List.append_assoc]; rfl
      have hfragment := parse_fragment (s := s₁) hpre' (hf w rfl)
      rw [List.length_append] at hfragment
      exact hfragment

theorem parse_query (hpre : uristr = pre ++ (body ++ after 35 f)) (hbody : body ∈ query.matches')
    (hf : ∀ w ∈ f, w ∈ fragment.matches') :
    parse uristr (body ++ after 35 f) pre.length 456 s =
      .ok (some (addFragment { s.uri with query := body } f)) := by
  have hmid : marked uristr pre.length (pre.length + body.length) = body := marked_mid hpre
  by_cases hne : body = []
  · subst hne
    have hends : EndsBefore 456 [.marku, .save_query] := by decide +kernel
    refine (hends.parse hpre hf rfl).trans ?_
    simp only [perform_cons, perform_nil, act, save, marked_nil, Except.map]
  · have hleads : Leads (enter machine 456 [.marku]) query [none] fun x =>
        ∀ t ∈ x, EndsBefore t [.save_query] := by
      decide +kernel
    obtain ⟨t, hends, hparse⟩ := parse_marked (.inl rfl) hleads hbody hne
    rw [hparse, ← List.length_append]
    refine (hends.parse (by rw [hpre, List.append_assoc]) hf rfl).trans ?_
    simp only [perform_cons, perform_nil, act, save, List.length_append, hmid, Except.map]

/-- What comes after the path. -/
theorem EndsPath.parse (h : EndsPath cs acts) (hpre : uristr = pre ++ (after 63 q ++ after 35 f))
    (hq : ∀ w ∈ q, w ∈ query.matches') (hf : ∀ w ∈ f, w ∈ fragment.matches')
    {r : Except NullString State} (hs : Scanner.perform (act uristr) pre.length acts s = r) :
    parse uristr (after 63 q ++ after 35 f) pre.length cs s =
      r.map fun s => some (addFragment (addQuery s.uri q) f) := by
  cases q with
  | none => exact h.toEndsBefore.parse hpre hf hs
  | some w =>
    cases r with
    | error e => exact parse_cons_error h.question hs
    | ok s₁ =>
      rw [after, List.cons_append, parse_cons h.question hs]
      have hpre' : uristr = (pre ++ [63]) ++ (w ++ after 35 f) := by
        rw [hpre, after, List.append_assoc]
        rfl
      have hquery := parse_query (s := s₁) hpre' (hq w rfl) hf
      rw [List.length_append] at hquery
      exact hquery

theorem ends_path : EndsPath 513 [.save_path] := by decide +kernel

/-- **What comes after the authority**: the path begins where the mark is, if there is one. -/
theorem Ends.parse (h : Ends cs acts) {path : List UInt8}
    (hpre : uristr = pre ++ (path ++ (after 63 q ++ after 35 f))) (hpath : path ∈ path_abempty.matches')
    (hq : ∀ w ∈ q, w ∈ query.matches') (hf : ∀ w ∈ f, w ∈ fragment.matches')
    (hs : Scanner.perform (act uristr) pre.length acts s = .ok s₁) :
    parse uristr (path ++ (after 63 q ++ after 35 f)) pre.length cs s =
      (save uristr (fun uri v => { uri with path := v }) (pre.length + path.length) s₁).map fun s =>
        some (addFragment (addQuery s.uri q) f) := by
  rcases path_cases hpath with rfl | ⟨t, ht, rfl⟩
  · refine h.toEndsPath.parse hpre hq hf ?_
    rw [Scanner.perform_append, hs]
    cases hsave : save uristr (fun uri v => { uri with path := v }) pre.length s₁ with
    | ok s' => simp [act, hsave]
    | error e => simp [act, hsave]
  · have hleads : Leads (quiet machine) (segment * (byte '/' * segment).star) [513] (· = 513) := by
      decide +kernel
    obtain ⟨_, rfl, hrun⟩ := hleads.run ht (List.mem_singleton_self 513)
    rw [List.cons_append, parse_cons h.slash hs, parse_quiet hrun]
    have hpre' : uristr = (pre ++ 47 :: t) ++ (after 63 q ++ after 35 f) := by
      rw [hpre, List.append_assoc]
    have hends := ends_path.parse (s := s₁) hpre' hq hf rfl
    rw [List.length_append, List.length_cons] at hends
    rw [List.length_cons, Nat.add_assoc, Nat.add_comm 1]
    refine hends.trans ?_
    cases hsave : save uristr (fun uri v => { uri with path := v }) (pre.length + (t.length + 1)) s₁ with
    | ok s' => simp [act, hsave]
    | error e => simp [act, hsave]

end

end Ancfl.UriParser
