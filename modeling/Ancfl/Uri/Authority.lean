/-
  The authority of a URI: user information and host.

  * `parse_userinfo`: the user information is saved from the mark on, which is
    set again if it begins like a host with a port (`resetsMark`);
  * `parse_host`: every host of the grammar is read, and it is saved with the
    next character (`HostRead`).
-/
import Ancfl.Http.ResponseElements
import Ancfl.Uri.Pieces

namespace Ancfl.UriParser

open Lib Lib.Automaton Http Computability

variable {uristr pre v : List UInt8} {s : State}

/-! ## States -/

/-- The states after the colon before a port. -/
def inPort (cs : ℕ) : Bool := cs == 514 || cs == 521

/-- A port follows in a state of `inPort`. -/
def colonActs (cs : ℕ) (acts : List Action) : Bool :=
  match machine.next cs 58 with
  | some (acts', ps) => acts' == acts && inPort ps
  | none => false

theorem next_of_colonActs {cs : ℕ} {acts : List Action} (h : colonActs cs acts = true) :
    ∃ ps, machine.next cs 58 = some (acts, ps) ∧ inPort ps = true := by
  unfold colonActs at h
  split at h
  · rename_i acts' ps hnext
    rw [Bool.and_eq_true, beq_iff_eq] at h
    exact ⟨ps, by rw [hnext, h.1], h.2⟩
  · cases h

/-- A host without user information before it may be a part of the user information. -/
structure InName (cs : ℕ) : Prop where
  ends : Ends cs [.save_host, .markh]
  colon : machine.next cs 58 = some ([.save_host], 521)
  at_ : machine.next cs 64 = some ([.save_userinfo], 522)

instance (cs : ℕ) : Decidable (InName cs) :=
  decidable_of_iff (Ends cs [.save_host, .markh] ∧ machine.next cs 58 = some ([.save_host], 521) ∧
    machine.next cs 64 = some ([.save_userinfo], 522))
    ⟨fun ⟨h1, h2, h3⟩ => ⟨h1, h2, h3⟩, fun ⟨h1, h2, h3⟩ => ⟨h1, h2, h3⟩⟩

theorem leads_name : Leads (enter machine 511 [.markh]) reg_name [none] fun x => ∀ t ∈ x, InName t := by
  decide +kernel

/-- A host that ends in the state `cs` is saved with the next character. -/
def EndsHost (cs : ℕ) : Prop := Ends cs [.save_host, .markh] ∧ colonActs cs [.save_host] = true

instance (cs : ℕ) : Decidable (EndsHost cs) := inferInstanceAs (Decidable (_ ∧ _))

theorem InName.endsHost {cs : ℕ} (h : InName cs) : EndsHost cs := by
  refine ⟨h.ends, ?_⟩
  rw [colonActs, h.colon]
  rfl

theorem leads_literal : Leads (quiet machine) ((IPv6address + IPvFuture) * byte ']') [260] EndsHost := by
  decide +kernel

/-- The hosts that are no literals. -/
theorem leads_host : ∀ cs ∈ [511, 522], Leads (enter machine cs [.markh]) (IPv4address + reg_name) [none]
    fun x => ∀ t ∈ x, EndsHost t := by
  have hIPv4 : ∀ cs ∈ [511, 522], Leads (enter machine cs [.markh]) IPv4address [none] fun x =>
      ∀ t ∈ x, EndsHost t := by
    decide +kernel
  have hname : Leads (enter machine 522 [.markh]) reg_name [none] fun x => ∀ t ∈ x, EndsHost t := by
    decide +kernel
  intro cs hcs
  refine (hIPv4 cs hcs).add ?_
  rcases List.mem_pair.1 hcs with rfl | rfl
  · exact leads_name.mono fun x hx t ht => (hx t ht).endsHost
  · exact hname

/-! ## User information -/

/-- The user information goes on with a digit after its first colon, as a host with a port does. -/
def resetsMark (u : List UInt8) : Bool :=
  match u.dropWhile (· != 58) with
  | _ :: d :: _ => isDigit 10 d
  | _ => false

/-- What is saved of the user information. -/
def kept (u : List UInt8) : List UInt8 :=
  if resetsMark u then (u.dropWhile (· != 58)).tail else u

theorem dropWhile_name {x : List UInt8} (h : 58 ∉ x) (y : List UInt8) :
    (x ++ y).dropWhile (· != 58) = y.dropWhile (· != 58) := by
  refine List.dropWhile_append_of_pos fun c hc => ?_
  rw [bne_iff_ne]
  rintro rfl
  exact h hc

/-- Before its first colon the user information is read as a host. -/
theorem parse_name {x : List UInt8} (hx : x ∈ reg_name.matches') (hpre : uristr = pre ++ (x ++ 58 :: v)) :
    parse uristr (x ++ 58 :: v) pre.length 511 s =
      parse uristr v (pre.length + x.length + 1) 521 ⟨{ s.uri with host := x }, some pre.length⟩ := by
  have hmid : marked uristr pre.length (pre.length + x.length) = x := marked_mid hpre
  by_cases hne : x = []
  · subst hne
    have hcolon : machine.next 511 58 = some ([.markh, .save_host], 521) := by decide +kernel
    rw [List.nil_append, parse_cons hcolon rfl]
    simp [marked_nil]
  · obtain ⟨t, ht, hparse⟩ := parse_marked (.inr rfl) leads_name hx hne
    rw [hparse, parse_cons ht.colon rfl]
    simp [hmid]

/-- **The user information** is lost up to its first colon if it resets the mark. -/
theorem parse_userinfo {u : List UInt8} (hu : u ∈ userinfo.matches')
    (hpre : uristr = pre ++ (u ++ 64 :: v)) : ∃ h, parse uristr (u ++ 64 :: v) pre.length 511 s =
      parse uristr v (pre.length + u.length + 1) 522
        ⟨{ s.uri with userinfo := kept u, host := h }, none⟩ := by
  have hmid : marked uristr pre.length (pre.length + u.length) = u := marked_mid hpre
  rcases userinfo_cases hu with hname | ⟨x, hx, y, hy, rfl⟩
  · have hkept : kept u = u := by
      have hdrop := dropWhile_name (colon_of_reg_name hname) []
      rw [List.append_nil] at hdrop
      rw [kept, resetsMark, hdrop]
      rfl
    by_cases hne : u = []
    · subst hne
      have hat : machine.next 511 64 = some ([.markh, .save_userinfo], 522) := by decide +kernel
      refine ⟨s.uri.host, ?_⟩
      rw [List.nil_append, parse_cons hat rfl]
      simp [marked_nil, hkept]
    · obtain ⟨t, ht, hparse⟩ := parse_marked (.inr rfl) leads_name hname hne
      refine ⟨s.uri.host, ?_⟩
      rw [hparse, parse_cons ht.at_ rfl]
      simp [hmid, hkept]
  · have hdrop : (x ++ 58 :: y).dropWhile (· != 58) = 58 :: y := by
      rw [dropWhile_name (colon_of_reg_name hx)]
      rfl
    have hpre' : uristr = pre ++ (x ++ 58 :: (y ++ 64 :: v)) := by
      rw [hpre, List.append_assoc]
      rfl
    have hlen : pre.length + (x ++ 58 :: y).length = pre.length + x.length + 1 + y.length := by
      rw [List.length_append, List.length_cons]
      omega
    refine ⟨x, ?_⟩
    rw [List.append_assoc]
    refine (parse_name hx hpre').trans ?_
    rcases userinfo_head hy with hdigit | hother
    · -- a digit after the colon begins a port, with a new mark
      have hleads : Leads (enter machine 521 [.markh]) (digit * userinfo) [none] fun x =>
          ∀ t ∈ x, machine.next t 64 = some ([.save_userinfo], 522) := by
        decide +kernel
      have hhead : Leads (first (isDigit 10)) (digit * userinfo) [false] (· = true) := by
        decide +kernel
      obtain ⟨d, t, hcons, hd⟩ : ∃ d t, y = d :: t ∧ isDigit 10 d = true :=
        (head_first hhead hdigit).resolve_left fun h => Bool.false_ne_true h.2
      have hkept : kept (x ++ 58 :: y) = y := by
        rw [kept, resetsMark, hdrop, hcons]
        exact if_pos hd
      have hmarked : marked uristr (pre.length + x.length + 1)
          (pre.length + x.length + 1 + y.length) = y := by
        have hpre₂ : uristr = (pre ++ x ++ [58]) ++ (y ++ 64 :: v) := by simp [hpre]
        simpa [Nat.add_assoc] using marked_mid hpre₂
      have hne : y ≠ [] := by simp [hcons]
      obtain ⟨t', hat, hparse⟩ := parse_marked (.inr rfl) hleads hdigit hne
      rw [hparse, parse_cons hat rfl, hlen]
      simp [hmarked, hkept]
    · have hleads : Leads (quiet machine) (1 + userinfo_nd * userinfo) [521] fun t =>
          machine.next t 64 = some ([.save_userinfo], 522) := by
        decide +kernel
      have hhead : Leads (first fun c => !isDigit 10 c) (1 + userinfo_nd * userinfo) [false]
          fun _ => True := by
        decide +kernel
      have hkept : kept (x ++ 58 :: y) = x ++ 58 :: y := by
        rw [kept, resetsMark, hdrop]
        rcases head_first hhead hother with ⟨rfl, -⟩ | ⟨d, t, rfl, hd⟩
        · rfl
        · have hnot : ¬isDigit 10 d = true := by simpa using hd
          exact if_neg hnot
      obtain ⟨t, hat, hrun⟩ := hleads.run hother (List.mem_singleton_self 521)
      rw [hlen] at hmid ⊢
      rw [parse_quiet hrun, parse_cons hat rfl]
      simp [hmid, hkept]

/-! ## Host -/

/-- In the state `cs` the host that ends at `p` is saved with the next character, as `uri` has it. -/
structure HostRead (uristr : List UInt8) (p cs : ℕ) (s : State) (uri : Uri) : Prop where
  ends : ∃ acts, Ends cs acts ∧ Scanner.perform (act uristr) p acts s = .ok ⟨uri, some p⟩
  colon : ∃ acts ps mark, machine.next cs 58 = some (acts, ps) ∧ inPort ps = true ∧
    Scanner.perform (act uristr) p acts s = .ok ⟨uri, mark⟩

/-- **Every host of the grammar is read**, with and without user information before it. -/
theorem parse_host {start : ℕ} (hstart : start ∈ [511, 522]) {h : List UInt8} (hh : h ∈ host.matches')
    (hpre : uristr = pre ++ (h ++ v)) : ∃ cs s₁,
      HostRead uristr (pre.length + h.length) cs s₁ { s.uri with host := h } ∧
      parse uristr (h ++ v) pre.length start s = parse uristr v (pre.length + h.length) cs s₁ := by
  have hmid : marked uristr pre.length (pre.length + h.length) = h := marked_mid hpre
  have hread : ∀ cs, EndsHost cs → HostRead uristr (pre.length + h.length) cs
      { s with mark := some pre.length } { s.uri with host := h } := by
    rintro cs ⟨hends, hcolon⟩
    obtain ⟨ps, hnext, hps⟩ := next_of_colonActs hcolon
    refine ⟨⟨_, hends, ?_⟩, _, ps, some pre.length, hnext, hps, ?_⟩
    · simp [act, hmid]
    · simp [act, hmid]
  have hsplit : h ∈ IP_literal.matches' ∨ h ∈ (IPv4address + reg_name).matches' := by
    rcases hh with (hh | hh) | hh
    · exact .inl hh
    · exact .inr (.inl hh)
    · exact .inr (.inr hh)
  rcases hsplit with hliteral | hother
  · -- a literal, which begins with a bracket
    obtain ⟨b, hb, hclose⟩ : ∃ b ∈ ((IPv6address + IPvFuture) * byte ']').matches', h = 91 :: b := by
      obtain ⟨u, hu, c, hc, rfl⟩ := Language.mem_mul.1 hliteral
      obtain ⟨o, ho, b, hb, rfl⟩ := Language.mem_mul.1 hu
      cases ho
      exact ⟨b ++ c, ⟨b, hb, c, hc, rfl⟩, rfl⟩
    subst hclose
    have hbracket : ∀ cs ∈ [511, 522], machine.next cs 91 = some ([.markh], 260) := by decide +kernel
    obtain ⟨cs, hends, hrun⟩ := leads_literal.run hb (List.mem_singleton_self 260)
    refine ⟨cs, _, hread cs hends, ?_⟩
    rw [List.cons_append, parse_cons (hbracket start hstart) rfl, parse_quiet hrun, List.length_cons,
      Nat.add_right_comm, Nat.add_assoc]
  by_cases hne : h = []
  · subst hne
    have hstates : ∀ cs ∈ [511, 522], Ends cs [.markh, .save_host] ∧
        colonActs cs [.markh, .save_host] = true := by
      decide +kernel
    obtain ⟨hends, hcolon⟩ := hstates start hstart
    obtain ⟨ps, hnext, hps⟩ := next_of_colonActs hcolon
    refine ⟨start, s, ⟨⟨_, hends, ?_⟩, _, ps, some pre.length, hnext, hps, ?_⟩, rfl⟩
    · simp [act, marked_nil]
    · simp [act, marked_nil]
  · obtain ⟨cs, hends, hparse⟩ := parse_marked (.inr rfl) (leads_host start hstart) hother hne
    exact ⟨cs, _, hread cs hends, hparse v pre.length s⟩

end Ancfl.UriParser
