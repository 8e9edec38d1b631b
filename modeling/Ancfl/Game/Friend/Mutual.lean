/-
  Requests and friendships over runs of `SendFriendRequest` and
  `RespondToFriendRequest`.

  * `FriendModule.Friendly`: friendship is mutual, no list is too long or has a
    role twice, the two copies of a request agree, and a role that was rejected
    can send a request again;
  * `Op.Answers`: the pending request that a call answers. To accept it changes
    the list of the target only, and the sender is refused whatever the answer;
  * `friendly_iff`: every state of a run is `Friendly` if and only if no call
    answers a request, but for a role that accepts its own.
-/
import Ancfl.Game.Friend
import Ancfl.Lib.Run

namespace Ancfl.Game.Friend

open Lib

/-! ## The lists -/

/-- The statuses of the requests of a list that are of a kind. -/
def statuses (p : FriendApplyInfo → Bool) (l : List FriendApplyInfo) : List FriendApplyStatus :=
  (l.filter p).map (·.status)

section
variable {p : FriendApplyInfo → Bool} {l l' : List FriendApplyInfo} {apply : FriendApplyInfo}

@[simp] theorem statuses_append : statuses p (l ++ l') = statuses p l ++ statuses p l' := by
  simp [statuses]

theorem statuses_cons : statuses p (apply :: l) =
    if p apply then apply.status :: statuses p l else statuses p l := by
  unfold statuses
  split_ifs with h <;> simp [h]

theorem statuses_singleton : statuses p [apply] = if p apply then [apply.status] else [] := statuses_cons

theorem statuses_eq_nil : statuses p l = [] ↔ l.any p = false := by
  simp [statuses, List.filter_eq_nil_iff]

variable {apply_id : BitVec 64} (status : FriendApplyStatus)

/-- What becomes of the statuses when the first request with the id is answered. -/
theorem statuses_answered (happly : l.find? (FriendModule.isApply apply_id) = some apply) :
    ∃ a b, statuses p l = a ++ statuses p [apply] ++ b ∧
      statuses p (FriendModule.answered apply_id status l) =
        a ++ statuses p [{ apply with status := status }] ++ b := by
  unfold FriendModule.answered
  rcases onFirst_cases (FriendModule.isApply apply_id) (fun apply => ((), { apply with status := status })) l
    with ⟨-, hnone⟩ | ⟨a, x, b, rfl, ha, hx, hsome⟩
  · rw [List.find?_eq_none.2 fun x hx => by simp [hnone x hx]] at happly
    cases happly
  · have hfind : a.find? (FriendModule.isApply apply_id) = none :=
      List.find?_eq_none.2 fun y hy => by simp [ha y hy]
    rw [List.find?_append, hfind, Option.none_or, List.find?_cons_of_pos hx] at happly
    cases happly
    rw [hsome]
    refine ⟨statuses p a, statuses p b, ?_, ?_⟩
    · rw [List.append_assoc, ← statuses_append, ← statuses_append]
      rfl
    · rw [List.append_assoc, ← statuses_append, ← statuses_append]
      rfl

/-- Other requests keep their statuses. -/
theorem statuses_answered_of_not (hp : ∀ apply status, p { apply with status := status } = p apply)
    (h : ∀ apply, l.find? (FriendModule.isApply apply_id) = some apply → p apply = false) :
    statuses p (FriendModule.answered apply_id status l) = statuses p l := by
  cases happly : l.find? (FriendModule.isApply apply_id) with
  | none =>
    have hnone : onFirst (FriendModule.isApply apply_id)
        (fun apply => ((), { apply with status := status })) l = none :=
      onFirst_of_not fun x hx => by simpa using List.find?_eq_none.1 happly x hx
    rw [FriendModule.answered, hnone]
  | some apply =>
    obtain ⟨a, b, hold, hnew⟩ := statuses_answered status happly
    rw [hold, hnew, statuses_singleton, statuses_singleton, hp, h apply happly]
    rfl

/-- The only request of its kind has the answer. -/
theorem statuses_answered_of (hp : ∀ apply status, p { apply with status := status } = p apply)
    (happly : l.find? (FriendModule.isApply apply_id) = some apply) (hpa : p apply = true)
    (hlen : (statuses p l).length ≤ 1) :
    statuses p l = [apply.status] ∧ statuses p (FriendModule.answered apply_id status l) = [status] := by
  obtain ⟨a, b, hold, hnew⟩ := statuses_answered status happly
  have hsingle : statuses p [apply] = [apply.status] := by rw [statuses_singleton, if_pos hpa]
  have hsingle' : statuses p [{ apply with status := status }] = [status] := by
    rw [statuses_singleton, if_pos ((hp apply status).trans hpa)]
  rw [hold, hsingle, List.length_append, List.length_append, List.length_singleton] at hlen
  have ha : a = [] := List.length_eq_zero_iff.1 (by omega)
  have hb : b = [] := List.length_eq_zero_iff.1 (by omega)
  rw [hold, hnew, hsingle, hsingle', ha, hb]
  exact ⟨rfl, rfl⟩

end

namespace FriendModule

def friendIds (s : FriendModule) (a : BitVec 64) : List (BitVec 64) :=
  (s.friend_cache_.rows a).map (·.friend_id)

/-- The statuses of the requests of `a` to `b`, at `a`. -/
def sentTo (s : FriendModule) (a b : BitVec 64) : List FriendApplyStatus :=
  statuses (fun apply => apply.target_id = b) (s.sent_apply_cache_.rows a)

/-- The statuses of the requests of `a` to `b`, at `b`. -/
def receivedFrom (s : FriendModule) (b a : BitVec 64) : List FriendApplyStatus :=
  statuses (fun apply => apply.requester_id = a) (s.apply_cache_.rows b)

structure Friendly (s : FriendModule) : Prop where
  mutual_ : ∀ a b, b ∈ s.friendIds a ↔ a ∈ s.friendIds b
  nodup : ∀ a, (s.friendIds a).Nodup
  limit : ∀ a, (s.friendIds a).length ≤ MAX_FRIEND_COUNT
  copies : ∀ a b, s.sentTo a b = s.receivedFrom b a
  again : ∀ a b, .REJECTED ∈ s.receivedFrom b a → ∀ now message,
    ∃ t, SendFriendRequest now a b message .reentrant s = .ret true t

/-- What holds in every run: the lists have friends only, and no request is sent twice. -/
structure Plain (s : FriendModule) : Prop where
  friends : ∀ a, ∀ info ∈ s.friend_cache_.rows a, info.relation_type = .FRIEND
  once : ∀ a b, (s.sentTo a b).length ≤ 1

/-- No requests and no friends. -/
structure Empty (s : FriendModule) : Prop where
  friends : s.friend_cache_ = ∅
  received : s.apply_cache_ = ∅
  sent : s.sent_apply_cache_ = ∅

end FriendModule

/-- The pending request that a response answers. -/
def Op.Answers (s : FriendModule) (apply : FriendApplyInfo) : Op → Prop
  | RespondToFriendRequest role_id apply_id accept =>
    s.applyOf role_id apply_id = some apply ∧ apply.status = .PENDING ∧
      (accept = true → s.belowLimit role_id = true ∧
        FriendModule.isFriend apply.requester_id (s.friend_cache_.rows role_id) = false)
  | _ => False

/-- The answer is a role's yes to its own request, which is the first with this id at the sender
    (ids repeat after 2^64 requests). -/
def Op.IsOwn (s : FriendModule) (apply : FriendApplyInfo) : Op → Prop
  | RespondToFriendRequest role_id apply_id accept =>
    accept = true ∧ apply.requester_id = role_id ∧
      ∃ sent, (s.sent_apply_cache_.rows role_id).find? (FriendModule.isApply apply_id) = some sent ∧
        sent.target_id = role_id
  | _ => False

/-- The calls of the two operations. -/
def Op.IsRequest : Op → Prop
  | SendFriendRequest _ _ _ => True
  | RespondToFriendRequest _ _ _ => True
  | _ => False

/-- A call at a time, where an inner lock is no deadlock. -/
def Calls (s : FriendModule) (call : ℤ × Op) (t : FriendModule) : Prop :=
  call.2.IsRequest ∧ call.2.call call.1 .reentrant s = .ret () t

/-! ## What a call does -/

namespace FriendModule

/-- The same lists, though one that is empty may be missing. -/
structure SameLists (s t : FriendModule) : Prop where
  friends : ∀ a, t.friend_cache_.rows a = s.friend_cache_.rows a
  received : t.apply_cache_ = s.apply_cache_
  sent : t.sent_apply_cache_ = s.sent_apply_cache_

variable {s t : FriendModule} {now : ℤ} {role_id friend_id target_id apply_id : BitVec 64}
  {message : String}

/-- Another friend at the end of a list. -/
def befriended (s : FriendModule) (now : ℤ) (role_id friend_id : BitVec 64) : FriendModule :=
  s.setFriends role_id (s.friend_cache_.rows role_id ++ [{
    friend_id, friend_name := "", level := 1, profession := 1, status := .OFFLINE,
    relation_type := .FRIEND, last_login_time := now, friend_since := now }])

theorem addFriend_apply (now : ℤ) (role_id friend_id : BitVec 64) (s : FriendModule) :
    (AddFriend now role_id friend_id .reentrant s = .ret true (s.befriended now role_id friend_id) ∧
      s.belowLimit role_id = true ∧ isFriend friend_id (s.friend_cache_.rows role_id) = false) ∨
    ∃ t, AddFriend now role_id friend_id .reentrant s = .ret false t ∧ SameLists s t ∧
      ¬(s.belowLimit role_id = true ∧ isFriend friend_id (s.friend_cache_.rows role_id) = false) := by
  have hlimit : CheckFriendLimit role_id .reentrant s = .ret (s.belowLimit role_id) s := rfl
  have hcall : AddFriend now role_id friend_id .reentrant s =
      (if s.belowLimit role_id = true then Locked.perform (add now role_id friend_id)
        else pure false : Locked FriendModule Bool) .reentrant s := Locked.bind_apply hlimit
  rw [hcall]
  by_cases hbelow : s.belowLimit role_id = true
  · rw [if_pos hbelow, Locked.perform_apply]
    show (Out.ret (add now role_id friend_id s).1 (add now role_id friend_id s).2 = _ ∧ _) ∨ _
    unfold add
    dsimp only
    cases hfriend : isFriend friend_id (s.friend_cache_.rows role_id) with
    | false =>
      refine .inl ⟨?_, hbelow, rfl⟩
      rw [if_neg (by rw [← Bool.not_eq_true] at hfriend; exact hfriend)]
      rfl
    | true =>
      refine .inr ⟨s.setFriends role_id (s.friend_cache_.rows role_id), ?_, ⟨fun a => ?_, rfl, rfl⟩, by simp⟩
      · rw [if_pos (by exact hfriend)]
        rfl
      · show Dict.rows (s.friend_cache_.insert role_id _) a = _
        rw [Dict.rows_insert]
        split_ifs with ha
        · rw [ha]
        · rfl
  · rw [if_neg hbelow]
    exact .inr ⟨s, rfl, ⟨fun _ => rfl, rfl, rfl⟩, fun h => hbelow h.1⟩

/-- Both copies of a request are answered. -/
theorem answer_eq (apply : FriendApplyInfo) (status : FriendApplyStatus) :
    s.answer role_id apply status = (true, { s with
      apply_cache_ := s.apply_cache_.onRows role_id (answered apply.apply_id status)
      sent_apply_cache_ :=
        s.sent_apply_cache_.onRows apply.requester_id (answered apply.apply_id status) }) := by
  cases hr : s.apply_cache_.lookup role_id <;>
    cases hs : s.sent_apply_cache_.lookup apply.requester_id <;>
    simp only [answer, Dict.onRows, hr, hs]

/-- What a response does, by the answer that it gives. -/
theorem respond_cases (now : ℤ) (role_id apply_id : BitVec 64) (accept : Bool) (s : FriendModule) :
    (∃ b t, RespondToFriendRequest now role_id apply_id accept .reentrant s = .ret b t ∧
      SameLists s t ∧ ∀ apply, ¬(Op.RespondToFriendRequest role_id apply_id accept).Answers s apply) ∨
    ∃ apply, (Op.RespondToFriendRequest role_id apply_id accept).Answers s apply ∧
      RespondToFriendRequest now role_id apply_id accept .reentrant s = .ret true
        (if accept = true then
          ((s.befriended now role_id apply.requester_id).answer role_id apply .ACCEPTED).2
        else (s.answer role_id apply .REJECTED).2) := by
  have hsame : SameLists s s := ⟨fun _ => rfl, rfl, rfl⟩
  have hcall : RespondToFriendRequest now role_id apply_id accept .reentrant s = _ :=
    Locked.bind_apply (Locked.perform_apply fun s : FriendModule => (s.applyOf role_id apply_id, s))
  rw [hcall]
  dsimp only
  cases happly : s.applyOf role_id apply_id with
  | none => exact .inl ⟨false, s, rfl, hsame, fun _ h => nomatch happly.symm.trans h.1⟩
  | some apply =>
    dsimp only
    by_cases hpending : apply.status = .PENDING
    · rw [if_neg (not_not.2 hpending)]
      cases accept with
      | false =>
        refine .inr ⟨apply, ⟨happly, hpending, fun h => nomatch h⟩, ?_⟩
        rw [if_neg Bool.false_ne_true, if_neg Bool.false_ne_true, Locked.perform_apply, answer_eq]
      | true =>
        rw [if_pos rfl]
        rcases addFriend_apply now role_id apply.requester_id s with
          ⟨hadd, hbelow, hnot⟩ | ⟨t, hadd, ht, hnot⟩
        · refine .inr ⟨apply, ⟨happly, hpending, fun _ => ⟨hbelow, hnot⟩⟩, ?_⟩
          rw [Locked.bind_apply hadd, if_pos rfl, Locked.perform_apply, answer_eq]
          rfl
        · refine .inl ⟨false, t, ?_, ht, ?_⟩
          · rw [Locked.bind_apply hadd]
            rfl
          · rintro other ⟨h, -, hyes⟩
            obtain rfl := Option.some.inj (happly.symm.trans h)
            exact hnot (hyes rfl)
    · rw [if_pos hpending]
      refine .inl ⟨false, s, rfl, hsame, ?_⟩
      rintro other ⟨h, hp, -⟩
      obtain rfl := Option.some.inj (happly.symm.trans h)
      exact hpending hp

/-- A request is sent, or refused. -/
theorem send_cases (now : ℤ) (role_id target_id : BitVec 64) (message : String) (s : FriendModule) :
    (SendFriendRequest now role_id target_id message .reentrant s = .ret false s) ∨
    ∃ apply : FriendApplyInfo, apply.requester_id = role_id ∧ apply.target_id = target_id ∧
      apply.status = .PENDING ∧ s.sentTo role_id target_id = [] ∧
      SendFriendRequest now role_id target_id message .reentrant s = .ret true { s with
        sent_apply_cache_ := s.sent_apply_cache_.insert role_id (s.sent_apply_cache_.rows role_id ++ [apply])
        apply_cache_ := s.apply_cache_.insert target_id (s.apply_cache_.rows target_id ++ [apply])
        next_id := s.next_id + 1 } := by
  have hcall : SendFriendRequest now role_id target_id message .reentrant s =
    .ret (sendRequest now role_id target_id message s).1
      (sendRequest now role_id target_id message s).2 := rfl
  rw [hcall]
  unfold sendRequest
  by_cases hfriend : isFriend target_id ((s.friend_cache_.lookup role_id).getD []) = true
  · rw [if_pos hfriend]
    exact .inl rfl
  rw [if_neg hfriend]
  dsimp only
  by_cases hsent : (((s.sent_apply_cache_.lookup role_id).getD []).any
      fun apply => apply.target_id = target_id) = true
  · rw [if_pos hsent]
    exact .inl rfl
  · rw [if_neg hsent]
    refine .inr ⟨_, rfl, rfl, rfl, ?_, rfl⟩
    exact statuses_eq_nil.2 (Bool.eq_false_iff.2 hsent)

/-! ## What the lists are afterwards -/

theorem applyOf_eq : s.applyOf role_id apply_id =
    (s.apply_cache_.rows role_id).find? (isApply apply_id) := by
  unfold applyOf Dict.rows
  cases s.apply_cache_.lookup role_id <;> rfl

theorem friendIds_befriended (a : BitVec 64) : (s.befriended now role_id friend_id).friendIds a =
    if a = role_id then s.friendIds role_id ++ [friend_id] else s.friendIds a := by
  show (Dict.rows (s.friend_cache_.insert role_id _) a).map _ = _
  rw [Dict.rows_insert]
  split_ifs
  · simp [friendIds]
  · rfl

theorem friendIds_answer (apply : FriendApplyInfo) (status : FriendApplyStatus) (a : BitVec 64) :
    (s.answer role_id apply status).2.friendIds a = s.friendIds a := by
  rw [answer_eq]
  rfl

theorem sentTo_answer (apply : FriendApplyInfo) (status : FriendApplyStatus) (a b : BitVec 64) :
    (s.answer role_id apply status).2.sentTo a b =
      if a = apply.requester_id then statuses (fun apply => apply.target_id = b)
        (answered apply.apply_id status (s.sent_apply_cache_.rows apply.requester_id))
      else s.sentTo a b := by
  rw [answer_eq]
  show statuses _ (Dict.rows (Dict.onRows _ _ _) a) = _
  rw [Dict.rows_onRows rfl]
  split_ifs <;> rfl

theorem receivedFrom_answer (apply : FriendApplyInfo) (status : FriendApplyStatus) (b a : BitVec 64) :
    (s.answer role_id apply status).2.receivedFrom b a =
      if b = role_id then statuses (fun apply => apply.requester_id = a)
        (answered apply.apply_id status (s.apply_cache_.rows role_id))
      else s.receivedFrom b a := by
  rw [answer_eq]
  show statuses _ (Dict.rows (Dict.onRows _ _ _) b) = _
  rw [Dict.rows_onRows rfl]
  split_ifs <;> rfl

theorem isFriend_iff {l : List FriendInfo} (h : ∀ info ∈ l, info.relation_type = .FRIEND) :
    isFriend friend_id l = true ↔ friend_id ∈ l.map (·.friend_id) := by
  simp only [isFriend, List.any_eq_true, List.mem_map, decide_eq_true_eq]
  constructor
  · rintro ⟨info, hinfo, hid, -⟩
    exact ⟨info, hinfo, hid⟩
  · rintro ⟨info, hinfo, hid⟩
    exact ⟨info, hinfo, hid, h info hinfo⟩

/-! ## What a call keeps -/

theorem Friendly.no_rejected (h : s.Friendly) (a b : BitVec 64) : .REJECTED ∉ s.receivedFrom b a := by
  intro hmem
  obtain ⟨t, ht⟩ := h.again a b hmem 0 ""
  rcases send_cases 0 a b "" s with hrefused | ⟨apply, -, -, -, hnil, -⟩
  · rw [hrefused] at ht
    cases ht
  · rw [← h.copies, hnil] at hmem
    cases hmem

theorem Friendly.of_same (h : s.Friendly) (hst : SameLists s t) : t.Friendly := by
  have hids : t.friendIds = s.friendIds := funext fun a => by rw [friendIds, hst.friends, friendIds]
  have hsent : t.sentTo = s.sentTo := by unfold sentTo; rw [hst.sent]
  have hreceived : t.receivedFrom = s.receivedFrom := by unfold receivedFrom; rw [hst.received]
  refine ⟨?_, ?_, ?_, ?_, fun a b hmem => ?_⟩
  · rw [hids]
    exact h.mutual_
  · rw [hids]
    exact h.nodup
  · rw [hids]
    exact h.limit
  · rw [hsent, hreceived]
    exact h.copies
  · rw [hreceived] at hmem
    exact absurd hmem (h.no_rejected a b)

theorem Plain.of_same (h : s.Plain) (hst : SameLists s t) : t.Plain := by
  refine ⟨fun a => ?_, fun a b => ?_⟩
  · rw [hst.friends]
    exact h.friends a
  · have hsent : t.sentTo a b = s.sentTo a b := by unfold sentTo; rw [hst.sent]
    rw [hsent]
    exact h.once a b

theorem Plain.befriended (h : s.Plain) : (s.befriended now role_id friend_id).Plain := by
  refine ⟨Dict.forall_rows_insert (P := fun _ (l : List FriendInfo) => ∀ info ∈ l, info.relation_type = .FRIEND)
    h.friends ?_, h.once⟩
  intro info hinfo
  rcases List.mem_append.1 hinfo with hinfo | hinfo
  · exact h.friends role_id info hinfo
  · rw [List.mem_singleton.1 hinfo]

theorem Plain.answer (h : s.Plain) (apply : FriendApplyInfo) (status : FriendApplyStatus) :
    (s.answer role_id apply status).2.Plain := by
  refine ⟨fun a => ?_, fun a b => ?_⟩
  · rw [answer_eq]
    exact h.friends a
  · rw [sentTo_answer]
    split_ifs with ha
    · have honce := h.once apply.requester_id b
      cases hfind : (s.sent_apply_cache_.rows apply.requester_id).find? (isApply apply.apply_id) with
      | none =>
        rw [statuses_answered_of_not status (fun _ _ => rfl) fun _ hx => by cases hfind.symm.trans hx]
        exact honce
      | some sent =>
        obtain ⟨l₁, l₂, hold, hnew⟩ := statuses_answered status
          (p := fun apply => apply.target_id = b) hfind
        have hlen : (statuses (fun apply => apply.target_id = b) [{ sent with status := status }]).length =
            (statuses (fun apply => apply.target_id = b) [sent]).length := by
          rw [statuses_singleton, statuses_singleton]
          split_ifs <;> rfl
        rw [sentTo, hold, List.length_append, List.length_append] at honce
        rw [hnew, List.length_append, List.length_append, hlen]
        exact honce
    · exact h.once a b

/-- The requests of a pair after another one is sent. -/
theorem statuses_insert {m : Dict (BitVec 64) (List FriendApplyInfo)} {p : FriendApplyInfo → Bool}
    (apply : FriendApplyInfo) (a b : BitVec 64) :
    statuses p (Dict.rows (m.insert b (m.rows b ++ [apply])) a) =
      statuses p (m.rows a) ++ if a = b then statuses p [apply] else [] := by
  rw [Dict.rows_insert]
  split_ifs with h
  · rw [h, statuses_append]
  · rw [List.append_nil]

theorem Plain.send {apply : FriendApplyInfo} {next_id : BitVec 64} (h : s.Plain)
    (hnil : s.sentTo role_id apply.target_id = []) : Plain { s with
      sent_apply_cache_ := s.sent_apply_cache_.insert role_id (s.sent_apply_cache_.rows role_id ++ [apply])
      apply_cache_ := s.apply_cache_.insert target_id (s.apply_cache_.rows target_id ++ [apply])
      next_id := next_id } := by
  refine ⟨h.friends, fun a b => ?_⟩
  rw [sentTo, statuses_insert, statuses_singleton]
  show (s.sentTo a b ++ _).length ≤ 1
  have honce := h.once a b
  split_ifs with ha hb
  · have hb : apply.target_id = b := by simpa using hb
    rw [ha, ← hb, hnil]
    exact le_rfl
  · simpa using honce
  · simpa using honce

theorem Friendly.send {apply : FriendApplyInfo} {next_id : BitVec 64} (h : s.Friendly)
    (hstatus : apply.status = .PENDING) : Friendly { s with
      sent_apply_cache_ := s.sent_apply_cache_.insert apply.requester_id
        (s.sent_apply_cache_.rows apply.requester_id ++ [apply])
      apply_cache_ := s.apply_cache_.insert apply.target_id
        (s.apply_cache_.rows apply.target_id ++ [apply])
      next_id := next_id } := by
  refine ⟨h.mutual_, h.nodup, h.limit, fun a b => ?_, fun a b hmem => ?_⟩
  · rw [sentTo, receivedFrom, statuses_insert, statuses_insert, statuses_singleton, statuses_singleton]
    refine congrArg₂ _ (h.copies a b) ?_
    by_cases ha : a = apply.requester_id
    · by_cases hb : b = apply.target_id
      · simp [ha, hb]
      · simp [ha, hb, Ne.symm hb]
    · by_cases hb : b = apply.target_id
      · simp [ha, hb, Ne.symm ha]
      · simp [ha, hb]
  · rw [receivedFrom, statuses_insert, statuses_singleton, List.mem_append] at hmem
    rcases hmem with hmem | hmem
    · exact absurd hmem (h.no_rejected a b)
    · split_ifs at hmem
      · rw [List.mem_singleton, hstatus] at hmem
        cases hmem
      · cases hmem
      · cases hmem

theorem length_of_belowLimit (h : s.belowLimit role_id = true) :
    (s.friendIds role_id).length < MAX_FRIEND_COUNT := by
  unfold friendIds Dict.rows
  unfold belowLimit at h
  cases hrows : s.friend_cache_.lookup role_id with
  | none => decide
  | some l =>
    rw [hrows] at h
    simpa using h

theorem apply_id_of_applyOf {apply : FriendApplyInfo} (h : s.applyOf role_id apply_id = some apply) :
    apply.apply_id = apply_id := by
  rw [applyOf_eq] at h
  simpa [isApply] using List.find?_some h

/-- The statuses at the target after an answer. -/
theorem Friendly.received_answer {apply : FriendApplyInfo} (h : s.Friendly) (hplain : s.Plain)
    (happly : s.applyOf role_id apply_id = some apply) (status : FriendApplyStatus) (b a : BitVec 64) : (s.answer role_id apply status).2.receivedFrom b a =
      if b = role_id ∧ a = apply.requester_id then [status] else s.receivedFrom b a := by
  have hfind := happly
  rw [applyOf_eq, ← apply_id_of_applyOf happly] at hfind
  rw [receivedFrom_answer]
  split_ifs with hb hboth hboth
  · refine (statuses_answered_of status (fun _ _ => rfl) hfind (by simpa using hboth.2.symm) ?_).2
    have honce := hplain.once a b
    rw [h.copies, hb] at honce
    exact honce
  · rw [hb]
    refine statuses_answered_of_not status (fun _ _ => rfl) fun other hother => ?_
    obtain rfl := Option.some.inj (hfind.symm.trans hother)
    simpa using fun ha => hboth ⟨hb, ha.symm⟩
  · exact absurd hboth.1 hb
  · rfl

/-- The statuses at the sender after an answer. -/
theorem Plain.sent_answer {apply sent : FriendApplyInfo} (h : s.Plain)
    (hsent : (s.sent_apply_cache_.rows apply.requester_id).find? (isApply apply.apply_id) = some sent)
    (role_id : BitVec 64) (status : FriendApplyStatus) (a b : BitVec 64) : (s.answer role_id apply status).2.sentTo a b =
      if a = apply.requester_id ∧ b = sent.target_id then [status] else s.sentTo a b := by
  rw [sentTo_answer]
  split_ifs with ha hboth hboth
  · refine (statuses_answered_of status (fun _ _ => rfl) hsent (by simpa using hboth.2.symm) ?_).2
    have honce := h.once a b
    rw [ha] at honce
    exact honce
  · rw [ha]
    refine statuses_answered_of_not status (fun _ _ => rfl) fun other hother => ?_
    obtain rfl := Option.some.inj (hsent.symm.trans hother)
    simpa using fun hb => hboth ⟨ha, hb.symm⟩
  · exact absurd hboth.1 ha
  · rfl

/-- **A role's yes to its own request** makes it a friend of itself. -/
theorem Friendly.own {apply : FriendApplyInfo} {accept : Bool} (h : s.Friendly) (hplain : s.Plain)
    (hanswers : (Op.RespondToFriendRequest role_id apply_id accept).Answers s apply)
    (hown : (Op.RespondToFriendRequest role_id apply_id accept).IsOwn s apply) :
    ((s.befriended now role_id apply.requester_id).answer role_id apply .ACCEPTED).2.Friendly := by
  obtain ⟨happly, -, hyes⟩ := hanswers
  obtain ⟨haccept, hself, sent, hsent, hto⟩ := hown
  obtain ⟨hbelow, hnot⟩ := hyes haccept
  have hlen := length_of_belowLimit hbelow
  have hnew : role_id ∉ s.friendIds role_id := by
    rw [hself] at hnot
    exact fun hmem => Bool.eq_false_iff.1 hnot ((isFriend_iff (hplain.friends role_id)).2 hmem)
  rw [← apply_id_of_applyOf happly, ← hself] at hsent
  have hids : ∀ a, ((s.befriended now role_id apply.requester_id).answer role_id apply
      .ACCEPTED).2.friendIds a =
      if a = role_id then s.friendIds role_id ++ [role_id] else s.friendIds a := fun a => by
    rw [friendIds_answer, friendIds_befriended, hself]
  have hreceived : ∀ b a, ((s.befriended now role_id apply.requester_id).answer role_id apply
      .ACCEPTED).2.receivedFrom b a =
      if b = role_id ∧ a = role_id then [.ACCEPTED] else s.receivedFrom b a := fun b a => by
    rw [answer_eq]
    refine Eq.trans ?_ (hself ▸ h.received_answer hplain happly .ACCEPTED b a)
    rw [answer_eq]
    rfl
  have hsentTo : ∀ a b, ((s.befriended now role_id apply.requester_id).answer role_id apply
      .ACCEPTED).2.sentTo a b =
      if a = role_id ∧ b = role_id then [.ACCEPTED] else s.sentTo a b := fun a b => by
    rw [answer_eq]
    refine Eq.trans ?_ (hself ▸ hto ▸ hplain.sent_answer hsent role_id .ACCEPTED a b)
    rw [answer_eq]
    rfl
  refine ⟨fun a b => ?_, fun a => ?_, fun a => ?_, fun a b => ?_, fun a b hmem => ?_⟩
  · rw [hids, hids]
    split_ifs with ha hb hb
    · rw [ha, hb]
    · have hmutual := h.mutual_ role_id b
      rw [ha]
      simpa [hb] using hmutual
    · have hmutual := h.mutual_ a role_id
      rw [hb]
      simpa [ha] using hmutual
    · exact h.mutual_ a b
  · rw [hids]
    split_ifs
    · exact List.nodup_append.2 ⟨h.nodup role_id, List.nodup_singleton _, by
        rintro x hx y hy rfl
        exact hnew (List.mem_singleton.1 hy ▸ hx)⟩
    · exact h.nodup a
  · rw [hids]
    split_ifs
    · rw [List.length_append]
      exact hlen
    · exact h.limit a
  · rw [hreceived, hsentTo]
    by_cases hself : a = role_id ∧ b = role_id
    · rw [if_pos hself, if_pos hself.symm]
    · rw [if_neg hself, if_neg fun hboth => hself hboth.symm]
      exact h.copies a b
  · rw [hreceived] at hmem
    split_ifs at hmem
    · simp at hmem
    · exact absurd hmem (h.no_rejected a b)

/-- **An answer to another role** is one too many: whoever is accepted does not get the friend. -/
theorem Friendly.not_answered {apply : FriendApplyInfo} {accept : Bool} (h : s.Friendly)
    (hplain : s.Plain) (hanswers : (Op.RespondToFriendRequest role_id apply_id accept).Answers s apply)
    (hown : ¬(Op.RespondToFriendRequest role_id apply_id accept).IsOwn s apply)
    (ht : Friendly (if accept = true then
      ((s.befriended now role_id apply.requester_id).answer role_id apply .ACCEPTED).2
      else (s.answer role_id apply .REJECTED).2)) : False := by
  obtain ⟨happly, hpending, hyes⟩ := hanswers
  have hreceived := h.received_answer hplain happly
  cases accept with
  | false =>
    rw [if_neg Bool.false_ne_true] at ht
    refine ht.no_rejected apply.requester_id role_id ?_
    rw [hreceived, if_pos ⟨rfl, rfl⟩]
    exact List.mem_singleton_self _
  | true =>
    rw [if_pos rfl] at ht
    obtain ⟨hbelow, hnot⟩ := hyes rfl
    have hnew : apply.requester_id ∉ s.friendIds role_id := fun hmem =>
      Bool.eq_false_iff.1 hnot ((isFriend_iff (hplain.friends role_id)).2 hmem)
    have hself : apply.requester_id = role_id := by
      by_contra hne
      have hmem := (ht.mutual_ role_id apply.requester_id).1
        (by rw [friendIds_answer, friendIds_befriended, if_pos rfl]; simp)
      rw [friendIds_answer, friendIds_befriended, if_neg hne] at hmem
      exact hnew ((h.mutual_ apply.requester_id role_id).1 hmem)
    -- the copy at the sender is another one than at the target
    have hbefore : s.receivedFrom role_id role_id = [.PENDING] := by
      have hfind := happly
      rw [applyOf_eq] at hfind
      have honce := hplain.once role_id role_id
      rw [h.copies] at honce
      have hone := (statuses_answered_of .ACCEPTED (fun _ _ => rfl) hfind
        (p := fun apply => apply.requester_id = role_id) (by simpa using hself) honce).1
      rw [receivedFrom, hone, hpending]
    have hother : statuses (fun apply => apply.target_id = role_id)
        (answered apply.apply_id .ACCEPTED (s.sent_apply_cache_.rows role_id)) =
        s.sentTo role_id role_id := by
      refine statuses_answered_of_not .ACCEPTED (fun _ _ => rfl) fun sent hsent => ?_
      rw [apply_id_of_applyOf happly] at hsent
      exact decide_eq_false fun hto => hown ⟨rfl, hself, sent, hsent, hto⟩
    have hafter := ht.copies role_id role_id
    rw [sentTo_answer, if_pos hself.symm, hself] at hafter
    have hreceivedAfter : s.receivedFrom role_id role_id = [.ACCEPTED] := by
      rw [← h.copies, ← hother]
      refine hafter.trans ?_
      rw [answer_eq]
      refine Eq.trans ?_ ((hreceived .ACCEPTED role_id role_id).trans (if_pos ⟨rfl, hself.symm⟩))
      rw [answer_eq]
      rfl
    rw [hbefore] at hreceivedAfter
    cases hreceivedAfter

end FriendModule

/-! ## Runs -/

/-- A call answers no request, but for a role that accepts its own. -/
def Unanswered (s : FriendModule) (call : ℤ × Op) : Prop :=
  ∀ apply, call.2.Answers s apply → call.2.IsOwn s apply

section
variable {s t : FriendModule} {call : ℤ × Op}

theorem Calls.plain (hs : s.Plain) (h : Calls s call t) : t.Plain := by
  obtain ⟨now, op⟩ := call
  obtain ⟨hop, hcall⟩ := h
  cases op
  case SendFriendRequest role_id target_id message =>
    obtain ⟨b, u, hu, hret⟩ := Call.bind_eq_ret.1 hcall
    cases hret
    rcases FriendModule.send_cases now role_id target_id message s with
      hrefused | ⟨apply, -, rfl, -, hnil, hsent⟩
    · rw [hrefused] at hu
      cases hu
      exact hs
    · rw [hsent] at hu
      cases hu
      exact hs.send hnil
  case RespondToFriendRequest role_id apply_id accept =>
    obtain ⟨b, u, hu, hret⟩ := Call.bind_eq_ret.1 hcall
    cases hret
    rcases FriendModule.respond_cases now role_id apply_id accept s with
      ⟨b, v, hv, hsame, -⟩ | ⟨apply, -, hv⟩
    · rw [hv] at hu
      cases hu
      exact hs.of_same hsame
    · rw [hv] at hu
      cases hu
      split_ifs
      · exact hs.befriended.answer apply .ACCEPTED
      · exact hs.answer apply .REJECTED
  all_goals exact absurd hop id

/-- **One call**. -/
theorem Calls.friendly_step (hplain : s.Plain) (hs : s.Friendly) (h : Calls s call t) :
    t.Friendly ↔ Unanswered s call := by
  obtain ⟨now, op⟩ := call
  obtain ⟨hop, hcall⟩ := h
  cases op
  case SendFriendRequest role_id target_id message =>
    obtain ⟨b, u, hu, hret⟩ := Call.bind_eq_ret.1 hcall
    cases hret
    refine iff_of_true ?_ fun _ hanswers => hanswers.elim
    rcases FriendModule.send_cases now role_id target_id message s with
      hrefused | ⟨apply, rfl, rfl, hstatus, -, hsent⟩
    · rw [hrefused] at hu
      cases hu
      exact hs
    · rw [hsent] at hu
      cases hu
      exact hs.send hstatus
  case RespondToFriendRequest role_id apply_id accept =>
    obtain ⟨b, u, hu, hret⟩ := Call.bind_eq_ret.1 hcall
    cases hret
    rcases FriendModule.respond_cases now role_id apply_id accept s with
      ⟨b, v, hv, hsame, hnot⟩ | ⟨apply, hanswers, hv⟩
    · rw [hv] at hu
      cases hu
      exact iff_of_true (hs.of_same hsame) fun apply hanswers => absurd hanswers (hnot apply)
    · rw [hv] at hu
      cases hu
      constructor
      · intro ht other hother
        obtain rfl := Option.some.inj (hanswers.1.symm.trans hother.1)
        by_contra hown
        exact hs.not_answered hplain hanswers hown ht
      · intro hown
        have hself := hown apply hanswers
        rw [if_pos hself.1]
        exact hs.own hplain hanswers hself
  all_goals exact absurd hop id

theorem friendly_empty (h : s.Empty) : s.Friendly ∧ s.Plain := by
  have hids : ∀ a, s.friendIds a = [] := fun a => by rw [FriendModule.friendIds, h.friends]; rfl
  have hreceived : ∀ a b, s.receivedFrom a b = [] := fun a b => by
    rw [FriendModule.receivedFrom, h.received]
    rfl
  have hsent : ∀ a b, s.sentTo a b = [] := fun a b => by rw [FriendModule.sentTo, h.sent]; rfl
  refine ⟨⟨?_, ?_, ?_, ?_, ?_⟩, ⟨?_, ?_⟩⟩
  · simp [hids]
  · simp [hids]
  · simp [hids]
  · simp [hreceived, hsent]
  · simp [hreceived]
  · intro a info hinfo
    rw [h.friends] at hinfo
    cases hinfo
  · simp [hsent]

end

/-- **Friendship is mutual as long as nobody answers**: every state on the way is `Friendly` if and
    only if every call is one that answers no request of another role. -/
theorem friendly_iff {s₀ s : FriendModule} {calls : List (ℤ × Op)} (h₀ : s₀.Empty)
    (hrun : Run Calls s₀ calls s) :
    (∀ calls₁ calls₂ t, calls = calls₁ ++ calls₂ → Run Calls s₀ calls₁ t → t.Friendly) ↔
      Run (fun s call t => Calls s call t ∧ Unanswered s call) s₀ calls s := by
  obtain ⟨hfriendly, hplain⟩ := friendly_empty h₀
  refine Run.forall_reached_iff (I := FriendModule.Plain) (P := FriendModule.Friendly) (C := Unanswered)
    ?_ (fun _ _ _ hs h => h.plain hs) (fun _ _ _ hplain hs h => h.friendly_step hplain hs) hplain hfriendly hrun
  rintro s call t t' ⟨-, ht⟩ ⟨-, ht'⟩
  rw [ht] at ht'
  cases ht'
  rfl

/-- A module that was just made. -/
def noFriends : FriendModule where
  friend_cache_ := ∅
  apply_cache_ := ∅
  sent_apply_cache_ := ∅
  recent_cache_ := ∅
  next_id := 7

theorem noFriends_empty : noFriends.Empty := ⟨rfl, rfl, rfl⟩

theorem friendly_self : ∃ s,
    Run Calls noFriends [(0, .SendFriendRequest 1 1 "me"), (5, .RespondToFriendRequest 1 7 true)] s ∧
      s.Friendly ∧ s.friendIds 1 = [1] := by
  have hrun : Run Calls noFriends
      [(0, .SendFriendRequest 1 1 "me"), (5, .RespondToFriendRequest 1 7 true)] _ :=
    .cons ⟨trivial, rfl⟩ (.cons ⟨trivial, rfl⟩ (.nil _))
  refine ⟨_, hrun, (friendly_iff noFriends_empty hrun).2 ?_ _ [] _ (List.append_nil _).symm hrun, rfl⟩
  refine .cons ⟨⟨trivial, rfl⟩, fun _ h => h.elim⟩ (.cons ⟨⟨trivial, rfl⟩, ?_⟩ (.nil _))
  rintro apply ⟨happly, -, -⟩
  cases happly
  exact ⟨rfl, rfl, _, rfl, rfl⟩

/-- Whoever is accepted does not have the friend. -/
theorem not_friendly : ¬∀ s₀ s calls, s₀.Empty → Run Calls s₀ calls s → s.Friendly := by
  intro h
  have hrun : Run Calls noFriends
      [(0, .SendFriendRequest 1 2 "hello"), (5, .RespondToFriendRequest 2 7 true)] _ :=
    .cons ⟨trivial, rfl⟩ (.cons ⟨trivial, rfl⟩ (.nil _))
  have hmutual := ((h noFriends _ _ noFriends_empty hrun).mutual_ 2 1).1 (by decide)
  exact absurd hmutual (by decide)

end Ancfl.Game.Friend
