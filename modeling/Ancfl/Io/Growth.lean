/-
  The table of the contexts while it grows.

  * `Table`: the context at an index of the table is that of this descriptor,
    and a thread that has found a context finds it there;
  * `Kept`: what the sections of the contexts leave alone;
  * `Fits`: a table is not resized to less than it has;
  * `keeps_of_fits`: in a run of such steps the table only grows at its end,
    and `addEvent` has its entry; `not_keeps`: two threads resize it, the
    second one to fewer entries.
-/
import Ancfl.Io.Manager

namespace Ancfl.IOManager

open Lib

variable {T S F C : Type}

/-! ## The table -/

/-- The entry of a descriptor, with the context that it points to. -/
def Entry (s : Sys T S F C) (fd ptr : ℕ) : Prop :=
  s.fdContexts[fd]? = some ptr ∧ ∃ ctx, s.contexts[ptr]? = some ctx ∧ ctx.fd = fd

/-- **Every entry is the context of its index**, and stays where a thread has found it. -/
structure Table (s : Sys T S F C) : Prop where
  entry : ∀ {fd ptr}, s.fdContexts[fd]? = some ptr → Entry s fd ptr
  found : ∀ {t fd ptr op}, s.pc t = .locked fd ptr op → s.fdContexts[fd]? = some ptr
  length : 32 ≤ s.fdContexts.length

section
variable {s s' s'' : Sys T S F C}

/-- What the sections of the contexts leave alone. -/
structure Kept (s s' : Sys T S F C) : Prop where
  table : s'.fdContexts = s.fdContexts
  fds : s'.contexts.map FdContext.fd = s.contexts.map FdContext.fd
  pc : s'.pc = s.pc

theorem Kept.refl (s : Sys T S F C) : Kept s s := ⟨rfl, rfl, rfl⟩

theorem Kept.trans (h : Kept s s') (h' : Kept s' s'') : Kept s s'' :=
  ⟨h'.table.trans h.table, h'.fds.trans h.fds, h'.pc.trans h.pc⟩

/-- A context is written, and its descriptor is the same. -/
theorem Kept.put {ptr : ℕ} {ctx ctx' : FdContext S F C} (hctx : s.contexts[ptr]? = some ctx)
    (hcontexts : s'.contexts = s.contexts.set ptr ctx') (hfd : ctx'.fd = ctx.fd)
    (htable : s'.fdContexts = s.fdContexts) (hpc : s'.pc = s.pc) : Kept s s' where
  table := htable
  fds := by
    obtain ⟨hlt, rfl⟩ := List.getElem?_eq_some_iff.1 hctx
    rw [hcontexts, List.map_set, hfd, ← List.getElem_map FdContext.fd (h := by simpa using hlt),
      List.set_getElem_self]
  pc := hpc

theorem fire_kept {ptr : ℕ} {event : Event} (h : fire s ptr event = .ok s') : Kept s s' := by
  unfold fire triggerEvent at h
  cases hctx : s.contexts[ptr]? with
  | none => rw [hctx] at h; cases h
  | some ctx =>
    simp only [hctx, Bind.bind, Except.bind] at h
    split_ifs at h
    cases hscheduler : (ctx.context event).scheduler with
    | none => rw [hscheduler] at h; cases h
    | some scheduler =>
      simp only [hscheduler] at h
      cases h
      exact .put hctx rfl rfl rfl rfl

theorem fireIf_kept {ptr : ℕ} {event : Event} {events : Event → Bool}
    (h : fireIf s ptr event events = .ok s') : Kept s s' := by
  rw [fireIf] at h
  split_ifs at h
  · exact fire_kept h
  · cases h
    exact .refl s

theorem epollCtl_kept (s : Sys T S F C) (fd ptr : ℕ) (events : Event → Bool) :
    Kept s (epollCtl s fd ptr events) := ⟨rfl, rfl, rfl⟩

theorem inLock_kept {fd ptr : ℕ} {ctx : FdContext S F C} {ok : Bool} {scheduler : Option S} {fiber : F}
    {op : Op C} (hctx : s.contexts[ptr]? = some ctx)
    (h : inLock s fd ptr ctx ok scheduler fiber op = .ok s') : Kept s s' := by
  cases op with
  | addEvent event cb =>
    simp only [inLock] at h
    split_ifs at h <;> cases h
    · exact .refl s
    · exact .put hctx rfl rfl rfl rfl
    · exact .put hctx rfl rfl rfl rfl
  | delEvent event =>
    simp only [inLock] at h
    split_ifs at h <;> cases h
    · exact .refl s
    · exact .refl s
    · exact .put hctx rfl rfl rfl rfl
  | cancelEvent event =>
    simp only [inLock] at h
    split_ifs at h
    · cases h
      exact .refl s
    · cases h
      exact .refl s
    · exact (epollCtl_kept s fd ptr _).trans (fire_kept h)
  | cancelAll =>
    simp only [inLock] at h
    split_ifs at h
    · cases h
      exact .refl s
    · cases h
      exact .refl s
    · obtain ⟨s₁, hread, h⟩ := bind_ok h
      obtain ⟨s₂, hwrite, h⟩ := bind_ok h
      split_ifs at h
      cases h
      exact ((epollCtl_kept s fd ptr _).trans (fireIf_kept hread)).trans (fireIf_kept hwrite)

theorem dispatch_kept {r : Report} {ctx : FdContext S F C} {ok : Bool}
    (h : dispatch s r ctx ok = .ok s') : Kept s s' := by
  simp only [dispatch] at h
  split_ifs at h
  · cases h
    exact .refl s
  · cases h
    exact .refl s
  · obtain ⟨s₁, hread, hwrite⟩ := bind_ok h
    exact ((epollCtl_kept s ctx.fd r.ptr _).trans (fireIf_kept hread)).trans (fireIf_kept hwrite)

theorem commit_kept {r : Except Fault (Sys T S F C)} (h : ∀ s', r = .ok s' → Kept s s') :
    Kept s (commit s r) := by
  cases r with
  | ok s' => exact h s' rfl
  | error f => exact ⟨rfl, rfl, rfl⟩

theorem Kept.entry (h : Kept s s') {fd ptr : ℕ} (hentry : Entry s fd ptr) : Entry s' fd ptr := by
  obtain ⟨hptr, ctx, hctx, hfd⟩ := hentry
  refine ⟨h.table ▸ hptr, ?_⟩
  have hmap := congrArg (fun fds => fds[ptr]?) h.fds
  simp only [List.getElem?_map, hctx, Option.map_some, Option.map_eq_some_iff] at hmap
  exact hmap.imp fun ctx' hctx' => ⟨hctx'.1, hctx'.2.trans hfd⟩

theorem Table.kept (h : Table s) (hkept : Kept s s') : Table s' where
  entry hptr := hkept.entry (h.entry (hkept.table ▸ hptr))
  found hpc := by
    rw [hkept.table]
    exact h.found (hkept.pc ▸ hpc)
  length := hkept.table ▸ h.length

/-- The entries that a larger table has, and what they point to. -/
theorem contextResize_entry (h : ∀ {fd ptr}, s.fdContexts[fd]? = some ptr → Entry s fd ptr) {size : ℕ}
    (hsize : s.fdContexts.length ≤ size) {fd ptr : ℕ}
    (hptr : (contextResize s size).fdContexts[fd]? = some ptr) :
    Entry (contextResize s size) fd ptr := by
  refine ⟨hptr, ?_⟩
  simp only [contextResize, List.take_of_length_le hsize] at hptr ⊢
  by_cases hfd : fd < s.fdContexts.length
  · rw [List.getElem?_append_left hfd] at hptr
    obtain ⟨ctx, hctx, hctxfd⟩ := (h hptr).2
    have hlt := (List.getElem?_eq_some_iff.1 hctx).1
    exact ⟨ctx, by rw [List.getElem?_append_left hlt, hctx], hctxfd⟩
  · rw [List.getElem?_append_right (by omega), List.getElem?_map, Option.map_eq_some_iff] at hptr
    obtain ⟨i, hi, rfl⟩ := hptr
    obtain ⟨hlt, rfl⟩ := List.getElem?_eq_some_iff.1 hi
    rw [List.getElem?_append_right (by omega), Nat.add_sub_cancel_left, List.getElem?_map,
      List.getElem_range]
    rw [List.length_range] at hlt
    rw [List.getElem?_range hlt]
    exact ⟨_, rfl, by simp only; omega⟩

theorem contextResize_prefix {size : ℕ} (hsize : s.fdContexts.length ≤ size) :
    s.fdContexts <+: (contextResize s size).fdContexts := by
  rw [contextResize, List.take_of_length_le hsize]
  exact List.prefix_append _ _

theorem length_contextResize (s : Sys T S F C) (size : ℕ) :
    (contextResize s size).fdContexts.length = size := by
  simp only [contextResize, List.length_append, List.length_take, List.length_map, List.length_range]
  omega

theorem find_some {fd ptr : ℕ} (h : find s fd = some ptr) : s.fdContexts[fd]? = some ptr :=
  (Option.filter_eq_some_iff.1 h).1

theorem Table.contextResize (h : Table s) {size : ℕ} (hsize : s.fdContexts.length ≤ size) :
    Table (contextResize s size) where
  entry := contextResize_entry h.entry hsize
  found hpc := by
    obtain ⟨hlt, hptr⟩ := List.getElem?_eq_some_iff.1 (h.found hpc)
    obtain ⟨_, hrest⟩ := contextResize_prefix hsize
    rw [← hrest, List.getElem?_append_left hlt, h.found hpc]
  length := by
    rw [length_contextResize]
    exact h.length.trans hsize

theorem init_table : Table (init T S F C) where
  entry := contextResize_entry (by rintro fd ptr ⟨⟩) (Nat.zero_le 32)
  found := by rintro t fd ptr op ⟨⟩
  length := (length_contextResize _ 32).ge

end

/-! ## Runs -/

section
variable [DecidableEq T] {s s' : Sys T S F C}

theorem Table.goto (h : Table s) (t : T) {p : Pc C}
    (hp : ∀ fd ptr op, p = .locked fd ptr op → s.fdContexts[fd]? = some ptr) :
    Table (IOManager.goto s t p) where
  entry := h.entry
  found {t' fd ptr op} hpc := by
    change Function.update s.pc t p t' = _ at hpc
    by_cases ht : t' = t
    · subst ht
      rw [Function.update_self] at hpc
      exact hp fd ptr op hpc
    · rw [Function.update_of_ne ht] at hpc
      exact h.found hpc
  length := h.length

/-- The table is not resized to less than it has. -/
def Fits (s : Sys T S F C) : Label T S F C → Prop
  | .resize t => ∀ fd event cb, s.pc t = .resize fd event cb → s.fdContexts.length ≤ fd * 3 / 2
  | _ => True

/-- The descriptor that a section of `addEvent` is about. -/
def added (s : Sys T S F C) : Label T S F C → Option ℕ
  | .resize t =>
    match s.pc t with
    | .resize fd _ _ => some fd
    | _ => none
  | .inLock t _ _ _ =>
    match s.pc t with
    | .locked fd _ (.addEvent _ _) => some fd
    | _ => none
  | _ => none

/-- **The table keeps its entries**, and `addEvent` has its own. -/
structure Keeps (s : Sys T S F C) (l : Label T S F C) (s' : Sys T S F C) : Prop where
  table : s.fdContexts <+: s'.fdContexts
  entry : ∀ fd, added s l = some fd → ∃ ptr, Entry s' fd ptr

/-- A step of a run, when the resized table has room for what was there. -/
theorem step_keeps {l : Label T S F C} (hfits : Fits s l) (hstep : step s l s') (h : Table s) :
    Table s' ∧ Keeps s l s' := by
  obtain ⟨-, hmoves⟩ := step_moves hstep
  cases hmoves with
  | found hpc hptr =>
    refine ⟨h.goto _ fun _ _ _ hp => ?_, List.prefix_rfl, by rintro fd ⟨⟩⟩
    cases hp
    exact find_some hptr
  | short | wait | done =>
    exact ⟨h.goto _ (by rintro _ _ _ ⟨⟩), List.prefix_rfl, by simp_all [added]⟩
  | refused => exact ⟨h, List.prefix_rfl, by rintro fd ⟨⟩⟩
  | resized hpc hptr =>
    have hsize := hfits _ _ _ hpc
    refine ⟨(h.contextResize hsize).goto _ fun _ _ _ hp => ?_, contextResize_prefix hsize, ?_⟩
    · cases hp
      exact hptr
    · intro fd hadded
      rw [added, hpc] at hadded
      cases hadded
      exact ⟨_, contextResize_entry h.entry hsize hptr⟩
  | outside hpc hnone =>
    have hsize := hfits _ _ _ hpc
    have hlength := h.length
    rw [List.getElem?_eq_none_iff, length_contextResize] at hnone
    omega
  | @inLock t fd ptr op ctx ok scheduler fiber hpc hctx =>
    have hkept : Kept s (commit s (inLock s fd ptr ctx ok scheduler fiber op)) :=
      commit_kept fun _ => inLock_kept hctx
    refine ⟨(h.kept hkept).goto _ (by rintro _ _ _ ⟨⟩), hkept.table ▸ List.prefix_rfl, ?_⟩
    intro fd' hadded
    rw [added, hpc] at hadded
    cases op with
    | addEvent event cb =>
      cases hadded
      exact ⟨ptr, hkept.entry (h.entry (h.found hpc))⟩
    | _ => cases hadded
  | @dispatch t r rest ctx ok hpc hctx =>
    have hkept : Kept s (commit s (dispatch s r ctx ok)) := commit_kept fun _ => dispatch_kept
    exact ⟨(h.kept hkept).goto _ (by rintro _ _ _ ⟨⟩), hkept.table ▸ List.prefix_rfl,
      by rintro fd ⟨⟩⟩

/-- **The table loses no context**, in runs in which each resize has room for the table it finds. -/
theorem keeps_of_fits {ls : List (Label T S F C)}
    (h : Run (fun s l s' => Fits s l ∧ step s l s') (init T S F C) ls s) :
    Run (fun s l s' => Keeps s l s' ∧ step s l s') (init T S F C) ls s := by
  have hrun : ∃ a, Run (fun s l s' => Keeps s l s' ∧ step s l s') (init T S F C) ls a ∧
      s = a ∧ Table s := by
    refine h.simulates (R := fun s a => s = a ∧ Table s) ?_ ⟨rfl, init_table⟩
    rintro s _ l s' ⟨rfl, htable⟩ ⟨hfits, hstep⟩
    obtain ⟨htable', hkeeps⟩ := step_keeps hfits hstep htable
    exact ⟨s', ⟨hkeeps, hstep⟩, rfl, htable'⟩
  obtain ⟨_, hrun, rfl, -⟩ := hrun
  exact hrun

/-- A thread adds an event for a descriptor outside of the table. -/
theorem keeps_grown : ∃ s, Run (fun s l s' => Fits s l ∧ step s l s') (init Bool Unit Unit Unit)
      [.call false 40 (.addEvent .READ none), .resize false, .inLock false true (some ()) ()] s ∧
    Run (fun s l s' => Keeps s l s' ∧ step s l s') (init Bool Unit Unit Unit)
      [.call false 40 (.addEvent .READ none), .resize false, .inLock false true (some ()) ()] s := by
  have hrun : ∃ s, Run (fun s l s' => Fits s l ∧ step s l s') (init Bool Unit Unit Unit)
      [.call false 40 (.addEvent .READ none), .resize false, .inLock false true (some ()) ()] s := by
    refine ⟨_, .cons ⟨trivial, rfl⟩ (.cons ⟨fun fd event cb hpc => ?_, rfl⟩
      (.cons ⟨trivial, rfl⟩ (.nil _)))⟩
    cases hpc
    decide
  obtain ⟨s, hrun⟩ := hrun
  exact ⟨s, hrun, keeps_of_fits hrun⟩

/-- Two threads find the table too short; the one that needs less resizes it last. -/
theorem not_keeps : ¬∀ s ls, Run step (init Bool Unit Unit Unit) ls s →
    Run (fun s l s' => Keeps s l s' ∧ step s l s') (init Bool Unit Unit Unit) ls s := by
  intro h
  obtain ⟨s, hrun, hs⟩ : ∃ s, Run step (init Bool Unit Unit Unit)
      ([.call false 60 (.addEvent .READ none), .call true 40 (.addEvent .READ none),
        .resize false] ++ [.resize true]) s ∧ s.fdContexts.length = 60 :=
    ⟨_, Run.of_foldlM rfl, rfl⟩
  obtain ⟨t, hbefore, hkeeps, -⟩ := Run.snoc_iff.1 (h s _ hrun)
  have ht : t.fdContexts.length = 90 := by
    have hfold := (hbefore.mono fun _ _ _ => And.right).foldlM_eq
    rw [← Option.some.inj hfold]
    rfl
  have hle := hkeeps.table.length_le
  omega

end

end Ancfl.IOManager
