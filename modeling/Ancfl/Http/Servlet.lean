/-
  `ServletDispatch`: the servlet that a path gets.

  * `m_datas` has servlets by their paths, `m_globs` by patterns, in the order
    in which they are tried;
  * `Op` are the calls that change them;
  * `registered uri ops` and `live ops`: which registrations stand after the calls
    `ops`, read off the calls;
  * `getMatchedServlet_of_calls`: the path itself comes first, then, of the
    patterns that match, the one whose last registration is the oldest.
-/
import Ancfl.Http.Message
import Ancfl.Lib.Dict
import Mathlib.Data.List.Induction
import Mathlib.Data.List.Nodup

namespace Ancfl.Http

open Lib

/-- `S` are the servlets, or their creators. -/
structure ServletDispatch (S : Type) where
  m_datas : Dict (List UInt8) S
  m_globs : List (List UInt8 × S)
  m_default : Option S

namespace ServletDispatch

variable {S : Type}

/-- `NotFoundServlet` is the default one. -/
def new (NotFoundServlet : S) : ServletDispatch S := ⟨∅, [], some NotFoundServlet⟩

/-- The loop `erase` the first entry with this pattern. -/
def eraseGlob (uri : List UInt8) (globs : List (List UInt8 × S)) : List (List UInt8 × S) :=
  globs.eraseP fun g => g.1 = uri

inductive Op (S : Type)
  /-- `addServlet` or `addServletCreator` -/
  | addServlet (uri : List UInt8) (slt : S)
  | addGlobServlet (uri : List UInt8) (slt : S)
  | delServlet (uri : List UInt8)
  | delGlobServlet (uri : List UInt8)
  | setDefault (v : Option S)

def apply (d : ServletDispatch S) : Op S → ServletDispatch S
  | .addServlet uri slt => { d with m_datas := d.m_datas.insert uri slt }
  | .addGlobServlet uri slt => { d with m_globs := eraseGlob uri d.m_globs ++ [(uri, slt)] }
  | .delServlet uri => { d with m_datas := d.m_datas.erase uri }
  | .delGlobServlet uri => { d with m_globs := eraseGlob uri d.m_globs }
  | .setDefault v => { d with m_default := v }

def getServlet (d : ServletDispatch S) (uri : List UInt8) : Option S := d.m_datas.lookup uri

def getGlobServlet (d : ServletDispatch S) (uri : List UInt8) : Option S :=
  (d.m_globs.find? fun g => g.1 = uri).map Prod.snd

/-- `fnmatch` takes C strings, the pattern first, and says whether they match. -/
def getMatchedServlet (fnmatch : List UInt8 → List UInt8 → Bool) (d : ServletDispatch S)
    (uri : List UInt8) : Option S :=
  match d.m_datas.lookup uri with
  | some slt => some slt
  | none =>
    match d.m_globs.find? fun g => fnmatch (cStr g.1) (cStr uri) with
    | some g => some g.2
    | none => d.m_default

/-! ## Registrations -/

/-- The pattern that a call is about. -/
def Op.glob : Op S → Option (List UInt8)
  | .addGlobServlet uri _ | .delGlobServlet uri => some uri
  | .addServlet _ _ | .delServlet _ | .setDefault _ => none

/-- What the last call about a path leaves for it. -/
def registered (uri : List UInt8) : List (Op S) → Option S → Option S
  | [], found => found
  | .addServlet uri' slt :: ops, found => registered uri ops (if uri' = uri then some slt else found)
  | .delServlet uri' :: ops, found => registered uri ops (if uri' = uri then none else found)
  | .addGlobServlet _ _ :: ops, found | .delGlobServlet _ :: ops, found | .setDefault _ :: ops, found =>
    registered uri ops found

/-- The registrations of patterns that no later call is about, in their order. -/
def live : List (Op S) → List (List UInt8 × S)
  | [] => []
  | .addGlobServlet uri slt :: ops =>
    if ∃ op ∈ ops, op.glob = some uri then live ops else (uri, slt) :: live ops
  | .delGlobServlet _ :: ops | .addServlet _ _ :: ops | .delServlet _ :: ops | .setDefault _ :: ops => live ops

/-- What the last `setDefault` leaves. -/
def lastDefault : List (Op S) → Option S → Option S
  | [], v => v
  | .setDefault v :: ops, _ => lastDefault ops v
  | .addGlobServlet _ _ :: ops, v | .delGlobServlet _ :: ops, v | .addServlet _ _ :: ops, v
  | .delServlet _ :: ops, v => lastDefault ops v

theorem lookup_foldl (ops : List (Op S)) (d : ServletDispatch S) (uri : List UInt8) :
    (ops.foldl apply d).m_datas.lookup uri = registered uri ops (d.m_datas.lookup uri) := by
  induction ops generalizing d with
  | nil => rfl
  | cons op ops ih =>
    rw [List.foldl_cons, ih]
    cases op with
    | addServlet uri' slt =>
      simp only [apply, registered, Dict.lookup_insert_iff]
      congr 1
      exact if_congr eq_comm rfl rfl
    | delServlet uri' =>
      simp only [apply, registered, Dict.lookup_erase_iff]
      congr 1
      exact if_congr eq_comm rfl rfl
    | addGlobServlet => rfl
    | delGlobServlet => rfl
    | setDefault => rfl

theorem default_foldl (ops : List (Op S)) (d : ServletDispatch S) :
    (ops.foldl apply d).m_default = lastDefault ops d.m_default := by
  induction ops generalizing d with
  | nil => rfl
  | cons op ops ih =>
    rw [List.foldl_cons, ih]
    cases op <;> rfl

theorem mem_glob_of_mem_live {uri : List UInt8} {slt : S} : ∀ {ops : List (Op S)},
    (uri, slt) ∈ live ops → ∃ op ∈ ops, op.glob = some uri
  | [], h => by simp [live] at h
  | op :: ops, h => by
    have hrest (h : (uri, slt) ∈ live ops) : ∃ op' ∈ op :: ops, op'.glob = some uri := by
      obtain ⟨op', hop, hglob⟩ := mem_glob_of_mem_live h
      exact ⟨op', List.mem_cons_of_mem _ hop, hglob⟩
    cases op with
    | addGlobServlet uri' slt' =>
      rw [live] at h
      split_ifs at h
      · exact hrest h
      · rcases List.mem_cons.1 h with heq | h
        · cases heq
          exact ⟨_, List.mem_cons_self, rfl⟩
        · exact hrest h
    | delGlobServlet => exact hrest h
    | addServlet => exact hrest h
    | delServlet => exact hrest h
    | setDefault => exact hrest h

/-- No pattern is there twice. -/
theorem nodup_live : ∀ ops : List (Op S), ((live ops).map Prod.fst).Nodup
  | [] => by simp [live]
  | .addGlobServlet uri slt :: ops => by
    rw [live]
    split_ifs with h
    · exact nodup_live ops
    · rw [List.map_cons, List.nodup_cons]
      refine ⟨fun hmem => h ?_, nodup_live ops⟩
      obtain ⟨⟨uri', slt'⟩, hlive, rfl⟩ := List.mem_map.1 hmem
      exact mem_glob_of_mem_live hlive
  | .delGlobServlet _ :: ops => nodup_live ops
  | .addServlet _ _ :: ops => nodup_live ops
  | .delServlet _ :: ops => nodup_live ops
  | .setDefault _ :: ops => nodup_live ops

/-- Where no pattern is there twice, the loop erases all entries with this one. -/
theorem eraseGlob_eq_filter (uri : List UInt8) {globs : List (List UInt8 × S)}
    (h : (globs.map Prod.fst).Nodup) : eraseGlob uri globs = globs.filter fun g => g.1 ≠ uri := by
  unfold eraseGlob
  induction globs with
  | nil => rfl
  | cons g globs ih =>
    rw [List.map_cons, List.nodup_cons] at h
    obtain ⟨hnot, hnodup⟩ := h
    by_cases hg : g.1 = uri
    · subst hg
      have hall : globs.filter (fun g' => g'.1 ≠ g.1) = globs := by
        rw [List.filter_eq_self]
        intro g' hg'
        have hne : g'.1 ≠ g.1 := fun he => hnot (he ▸ List.mem_map_of_mem hg')
        simpa using hne
      simpa using hall.symm
    · rw [List.eraseP_cons_of_neg (by simpa using hg), List.filter_cons_of_pos (by simpa using hg), ih hnodup]

/-- A later call takes the registrations of its pattern out. -/
theorem live_snoc (op : Op S) : ∀ ops : List (Op S),
    live (ops ++ [op]) = (live ops).filter (fun g => op.glob ≠ some g.1) ++ live [op]
  | [] => rfl
  | .addGlobServlet uri slt :: ops => by
    have hrest := live_snoc op ops
    rw [List.cons_append, live, live]
    by_cases hlater : ∃ op' ∈ ops, op'.glob = some uri
    · obtain ⟨op', hop, hglob⟩ := hlater
      rw [if_pos ⟨op', List.mem_append_left _ hop, hglob⟩, if_pos ⟨op', hop, hglob⟩, hrest]
    · rw [if_neg hlater]
      by_cases hop : op.glob = some uri
      · rw [if_pos ⟨op, by simp, hop⟩, List.filter_cons_of_neg (by simpa using hop), hrest]
      · rw [if_neg, List.filter_cons_of_pos (by simpa using hop), List.cons_append, hrest]
        rintro ⟨op', hmem, hglob⟩
        rcases List.mem_append.1 hmem with hmem | hmem
        · exact hlater ⟨op', hmem, hglob⟩
        · rw [List.mem_singleton.1 hmem] at hglob
          exact hop hglob
  | .delGlobServlet _ :: ops => live_snoc op ops
  | .addServlet _ _ :: ops => live_snoc op ops
  | .delServlet _ :: ops => live_snoc op ops
  | .setDefault _ :: ops => live_snoc op ops

/-- **The table of patterns** has the registrations that stand, the oldest first. -/
theorem m_globs_foldl (ops : List (Op S)) (d : ServletDispatch S) (hd : d.m_globs = []) :
    (ops.foldl apply d).m_globs = live ops := by
  induction ops using List.reverseRecOn with
  | nil => exact hd
  | append_singleton ops op ih =>
    rw [List.foldl_append, live_snoc]
    have herase (uri : List UInt8) : eraseGlob uri (ops.foldl apply d).m_globs =
        (live ops).filter fun g => g.1 ≠ uri := by
      rw [ih, eraseGlob_eq_filter uri (nodup_live ops)]
    cases op with
    | addGlobServlet uri slt =>
      simp [apply, herase, live, Op.glob, eq_comm]
    | delGlobServlet uri =>
      simp [apply, herase, live, Op.glob, eq_comm]
    | addServlet => simp [apply, ih, live, Op.glob]
    | delServlet => simp [apply, ih, live, Op.glob]
    | setDefault => simp [apply, ih, live, Op.glob]

/-- The `i`-th call registers a pattern, and no later one is about it. -/
def Stands (ops : List (Op S)) (i : ℕ) (g : List UInt8 × S) : Prop :=
  ops[i]? = some (.addGlobServlet g.1 g.2) ∧ ∀ j op, i < j → ops[j]? = some op → op.glob ≠ some g.1

theorem stands_succ_iff {op : Op S} {ops : List (Op S)} {i : ℕ} {g : List UInt8 × S} :
    Stands (op :: ops) (i + 1) g ↔ Stands ops i g := by
  constructor
  · rintro ⟨hi, hlater⟩
    exact ⟨hi, fun j op' hij hj => hlater (j + 1) op' (by omega) hj⟩
  · rintro ⟨hi, hlater⟩
    refine ⟨hi, fun j op' hij hj => ?_⟩
    obtain ⟨j, rfl⟩ := Nat.exists_eq_succ_of_ne_zero (by omega : j ≠ 0)
    exact hlater j op' (by omega) hj

theorem stands_zero_iff {op : Op S} {ops : List (Op S)} {g : List UInt8 × S} :
    Stands (op :: ops) 0 g ↔ op = .addGlobServlet g.1 g.2 ∧ ∀ op' ∈ ops, op'.glob ≠ some g.1 := by
  constructor
  · rintro ⟨hop, hlater⟩
    refine ⟨Option.some.inj hop, fun op' hmem => ?_⟩
    obtain ⟨j, hj⟩ := List.mem_iff_getElem?.1 hmem
    exact hlater (j + 1) op' (by omega) hj
  · rintro ⟨rfl, hlater⟩
    refine ⟨rfl, fun j op' hij hj => ?_⟩
    obtain ⟨j, rfl⟩ := Nat.exists_eq_succ_of_ne_zero (by omega : j ≠ 0)
    exact hlater op' (List.mem_of_getElem? hj)

/-- What a search in the registrations finds, by the places of the calls. -/
theorem find?_live_cases (p : List UInt8 × S → Bool) : ∀ ops : List (Op S),
    (∃ g i, (live ops).find? p = some g ∧ Stands ops i g ∧ p g = true ∧
      ∀ j g', j < i → Stands ops j g' → p g' = false) ∨
    ((live ops).find? p = none ∧ ∀ i g, Stands ops i g → p g = false)
  | [] => .inr ⟨rfl, fun i g h => by simp [Stands] at h⟩
  | op :: ops => by
    -- the first call registers nothing that stands and matches
    have hskip (hfind : (live (op :: ops)).find? p = (live ops).find? p)
        (hfirst : ∀ g, Stands (op :: ops) 0 g → p g = false) :
        (∃ g i, (live (op :: ops)).find? p = some g ∧ Stands (op :: ops) i g ∧ p g = true ∧
          ∀ j g', j < i → Stands (op :: ops) j g' → p g' = false) ∨
        ((live (op :: ops)).find? p = none ∧ ∀ i g, Stands (op :: ops) i g → p g = false) := by
      rcases find?_live_cases p ops with ⟨g, i, hg, hi, hp, hfew⟩ | ⟨hnone, hall⟩
      · refine .inl ⟨g, i + 1, hfind.trans hg, stands_succ_iff.2 hi, hp, fun j g' hj hg' => ?_⟩
        cases j with
        | zero => exact hfirst g' hg'
        | succ j => exact hfew j g' (by omega) (stands_succ_iff.1 hg')
      · refine .inr ⟨hfind.trans hnone, fun i g hi => ?_⟩
        cases i with
        | zero => exact hfirst g hi
        | succ i => exact hall i g (stands_succ_iff.1 hi)
    have hother (hlive : live (op :: ops) = live ops) (hop : ∀ uri slt, op ≠ .addGlobServlet uri slt) :=
      hskip (by rw [hlive]) fun g hg => absurd (stands_zero_iff.1 hg).1 (hop g.1 g.2)
    cases op with
    | addGlobServlet uri slt =>
      by_cases hlater : ∃ op ∈ ops, op.glob = some uri
      · refine hskip (by rw [live, if_pos hlater]) fun g hg => ?_
        obtain ⟨heq, hnot⟩ := stands_zero_iff.1 hg
        cases heq
        obtain ⟨op, hop, hglob⟩ := hlater
        exact absurd hglob (hnot op hop)
      · by_cases hp : p (uri, slt) = true
        · refine .inl ⟨(uri, slt), 0, ?_, stands_zero_iff.2 ⟨rfl, fun op hop hglob => hlater ⟨op, hop, hglob⟩⟩,
            hp, nofun⟩
          rw [live, if_neg hlater, List.find?_cons_of_pos hp]
        · refine hskip ?_ fun g hg => ?_
          · rw [live, if_neg hlater, List.find?_cons_of_neg (by simpa using hp)]
          · obtain ⟨heq, -⟩ := stands_zero_iff.1 hg
            cases heq
            exact Bool.eq_false_iff.2 hp
    | delGlobServlet => exact hother rfl nofun
    | addServlet => exact hother rfl nofun
    | delServlet => exact hother rfl nofun
    | setDefault => exact hother rfl nofun

/-- **Which servlet a path gets**, after any calls: the one for the path itself; else, of the patterns
    that stand and match, the one that was registered first; else the default one. -/
theorem getMatchedServlet_of_calls (fnmatch : List UInt8 → List UInt8 → Bool) (NotFoundServlet : S)
    (ops : List (Op S)) (uri : List UInt8) :
    let found := (ops.foldl apply (new NotFoundServlet)).getMatchedServlet fnmatch uri
    let fits (g : List UInt8 × S) : Bool := fnmatch (cStr g.1) (cStr uri)
    (∀ slt, registered uri ops none = some slt → found = some slt) ∧
      (registered uri ops none = none → ∀ i g, Stands ops i g → fits g →
        (∀ j g', j < i → Stands ops j g' → !fits g') → found = some g.2) ∧
      (registered uri ops none = none → (∀ i g, Stands ops i g → !fits g) →
        found = lastDefault ops (some NotFoundServlet)) := by
  intro found fits
  have hexact := lookup_foldl ops (new NotFoundServlet) uri
  have hglobs := m_globs_foldl ops (new NotFoundServlet) rfl
  have hdefault := default_foldl ops (new NotFoundServlet)
  have hfound : found = match registered uri ops none with
      | some slt => some slt
      | none => match (live ops).find? fits with
        | some g => some g.2
        | none => lastDefault ops (some NotFoundServlet) := by
    simp only [found, getMatchedServlet, hexact, hglobs, hdefault]
    rfl
  refine ⟨fun slt hslt => by rw [hfound, hslt], fun hnone i g hi hg hfew => ?_, fun hnone hall => ?_⟩
  · rw [hfound, hnone]
    rcases find?_live_cases fits ops with ⟨g', i', hfind, hi', hg', hfew'⟩ | ⟨-, hno⟩
    · have hle : ¬i < i' := fun hlt => by simp [hfew' i g hlt hi] at hg
      have hge : ¬i' < i := fun hlt => by simpa [hg'] using hfew i' g' hlt hi'
      obtain rfl : i = i' := by omega
      have heq := hi.1.symm.trans hi'.1
      rw [Option.some.injEq, Op.addGlobServlet.injEq] at heq
      rw [hfind]
      exact congrArg some heq.2.symm
    · simp [hno i g hi] at hg
  · rw [hfound, hnone]
    rcases find?_live_cases fits ops with ⟨g, i, -, hi, hg, -⟩ | ⟨hfind, -⟩
    · simpa [hg] using hall i g hi
    · rw [hfind]

end ServletDispatch
end Ancfl.Http
