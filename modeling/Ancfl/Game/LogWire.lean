/-
  The `extra_data` of consume and item logs, from `LogClient` to `LogServer`.

  * `LogConsume` and `LogItem` print it into 256 bytes, `HandleLogConsumeReq` and
    `HandleLogItemReq` scan it by the same format into a `reason` of 256 bytes;
  * `consume_received_iff`, `item_received_iff`: a log that fits is received as it
    was sent iff its reason has neither white space nor a NUL;
  * `consume_stored_iff`, `item_stored_iff`: which texts overrun `reason`.
-/
import Ancfl.Util.Stdio

namespace Ancfl.Game.LogWire

open Stdio

/-- The format before its `%s`, for each kind of log. -/
def consumeHead : List Directive := format "type=%d,amount=%d,reason="

def itemHead : List Directive := format "item_id=%d,count=%d,type=%d,reason="

/-- What the `sscanf` of a handler stores in its variables; `none` if `reason` is too short for the text
    and its NUL. -/
def readExtra (f : List Directive) (extra_data : List UInt8) : Option (List (BitVec 32) × List UInt8) :=
  let (numbers, words) := if extra_data = [] then ([], []) else sscanf extra_data f
  let reason := words.headD []
  if reason.length + 1 ≤ 256 then some (numbers, reason) else none

namespace LogClient

def LogConsume (type amount : BitVec 32) (reason : List UInt8) : List UInt8 :=
  snprintf 256 (format "type=%d,amount=%d,reason=%s") [type, amount] [reason]

def LogItem (item_id count type : BitVec 32) (reason : List UInt8) : List UInt8 :=
  snprintf 256 (format "item_id=%d,count=%d,type=%d,reason=%s") [item_id, count, type] [reason]

end LogClient

namespace LogServer

/-- The arguments of `LogConsume`; a variable that is not stored stays 0. -/
def HandleLogConsumeReq (extra_data : List UInt8) : Option (BitVec 32 × BitVec 32 × List UInt8) :=
  (readExtra (format "type=%d,amount=%d,reason=%s") extra_data).map fun (numbers, reason) =>
    (numbers.getD 0 0, numbers.getD 1 0, reason)

/-- The arguments of `LogItem`. -/
def HandleLogItemReq (extra_data : List UInt8) :
    Option (BitVec 32 × BitVec 32 × BitVec 32 × List UInt8) :=
  (readExtra (format "item_id=%d,count=%d,type=%d,reason=%s") extra_data).map fun (numbers, reason) =>
    (numbers.getD 0 0, numbers.getD 1 0, numbers.getD 2 0, reason)

end LogServer

/-- The text fits the buffer of the client, with its NUL. -/
def Fits (f : List Directive) (numbers : List (BitVec 32)) (reason : List UInt8) : Prop :=
  (print (f ++ [.str]) numbers [reason]).length + 1 ≤ 256

/-- Neither white space nor a NUL. -/
def Plain (reason : List UInt8) : Prop := ∀ c ∈ reason, Http.isspace c = false ∧ c ≠ 0

theorem plain_of_all {reason : List UInt8} (h : reason.all fun c => !Http.isspace c && c != 0) :
    Plain reason := by
  simpa [Plain, List.all_eq_true] using h

theorem consumeFormat : format "type=%d,amount=%d,reason=%s" = consumeHead ++ [.str] := by rfl

theorem itemFormat : format "item_id=%d,count=%d,type=%d,reason=%s" = itemHead ++ [.str] := by rfl

theorem separated_consume : Separated consumeHead := by decide

theorem separated_item : Separated itemHead := by decide

theorem takes_consume (type amount : BitVec 32) : Takes consumeHead [type, amount] :=
  show consumeHead.count .int = 2 by decide

theorem takes_item (item_id count type : BitVec 32) : Takes itemHead [item_id, count, type] :=
  show itemHead.count .int = 3 by decide

instance (f : List Directive) (numbers : List (BitVec 32)) (reason : List UInt8) :
    Decidable (Fits f numbers reason) := inferInstanceAs (Decidable (_ ≤ _))

section
variable {f : List Directive} {numbers : List (BitVec 32)}

theorem scan_nil (g : List Directive) : scan g [] = ([], []) := by
  cases g with
  | nil => rfl
  | cons d g => cases d <;> rfl

theorem readExtra_eq (g : List Directive) (extra_data : List UInt8) : readExtra g extra_data =
    if ((sscanf extra_data g).2.headD []).length + 1 ≤ 256 then
      some ((sscanf extra_data g).1, (sscanf extra_data g).2.headD [])
    else none := by
  rw [readExtra]
  by_cases hnil : extra_data = []
  · have hscan : sscanf extra_data g = ([], []) := by
      rw [hnil]
      exact scan_nil g
    rw [if_pos hnil, hscan]
  · rw [if_neg hnil]

/-- **A log that fits is received**, with what is left of its reason. -/
theorem readExtra_print (hf : Separated f) (his : Takes f numbers) (h0 : .char 0 ∉ f)
    {reason : List UInt8} (hfits : Fits f numbers reason) :
    readExtra (f ++ [.str]) (snprintf 256 (f ++ [.str]) numbers [reason]) =
      some (numbers, word (Http.cStr reason)) := by
  obtain ⟨hnumbers, hword⟩ := sscanf_print hf his h0 reason
  have hshort : (word (Http.cStr reason)).length + 1 ≤ 256 := by
    have hle : (word (Http.cStr reason)).length ≤ (Http.cStr reason).length :=
      ((List.takeWhile_sublist _).trans (List.dropWhile_sublist _)).length_le
    rw [Fits, print_append hf his, List.length_append] at hfits
    have hstr : print [.str] [] [reason] = Http.cStr reason := List.append_nil _
    rw [hstr] at hfits
    omega
  rw [snprintf, List.take_of_length_le (by rw [Fits] at hfits; omega), readExtra_eq, hnumbers, hword,
    if_pos hshort]

/-- **The text of the reason fits** exactly if no 256 characters of it are to be stored. -/
theorem readExtra_isSome_iff (hf : Separated f) (extra_data : List UInt8) :
    (readExtra (f ++ [.str]) extra_data).isSome ↔ ¬Overruns 256 f (Http.cStr extra_data) := by
  rw [readExtra_eq, ← le_scan_iff (by decide) hf, ← sscanf]
  split_ifs with h
  · exact iff_of_true rfl (by omega)
  · exact iff_of_false Bool.false_ne_true (by omega)

end

theorem consume_received_iff {type amount : BitVec 32} {reason : List UInt8}
    (hfits : Fits consumeHead [type, amount] reason) :
    LogServer.HandleLogConsumeReq (LogClient.LogConsume type amount reason) =
      some (type, amount, reason) ↔ Plain reason := by
  rw [LogServer.HandleLogConsumeReq, LogClient.LogConsume, consumeFormat,
    readExtra_print separated_consume (takes_consume type amount) (by decide) hfits, Plain,
    ← word_cStr_eq_iff]
  simp

theorem item_received_iff {item_id count type : BitVec 32} {reason : List UInt8}
    (hfits : Fits itemHead [item_id, count, type] reason) :
    LogServer.HandleLogItemReq (LogClient.LogItem item_id count type reason) =
      some (item_id, count, type, reason) ↔ Plain reason := by
  rw [LogServer.HandleLogItemReq, LogClient.LogItem, itemFormat,
    readExtra_print separated_item (takes_item item_id count type) (by decide) hfits, Plain,
    ← word_cStr_eq_iff]
  simp

theorem consume_stored_iff (extra_data : List UInt8) : (LogServer.HandleLogConsumeReq extra_data).isSome ↔
    ¬Overruns 256 consumeHead (Http.cStr extra_data) := by
  rw [LogServer.HandleLogConsumeReq, Option.isSome_map, consumeFormat,
    readExtra_isSome_iff separated_consume]

theorem item_stored_iff (extra_data : List UInt8) : (LogServer.HandleLogItemReq extra_data).isSome ↔
    ¬Overruns 256 itemHead (Http.cStr extra_data) := by
  rw [LogServer.HandleLogItemReq, Option.isSome_map, itemFormat,
    readExtra_isSome_iff separated_item]

/-- **Which logs survive the wire**: of those that fit, the ones with a plain reason; and from which
    texts the stored reason fits. -/
theorem log_survives_iff (type amount item_id count : BitVec 32) (reason extra_data : List UInt8) :
    ((Fits consumeHead [type, amount] reason →
        (LogServer.HandleLogConsumeReq (LogClient.LogConsume type amount reason) =
          some (type, amount, reason) ↔ Plain reason)) ∧
      (Fits itemHead [item_id, count, type] reason →
        (LogServer.HandleLogItemReq (LogClient.LogItem item_id count type reason) =
          some (item_id, count, type, reason) ↔ Plain reason))) ∧
    ((LogServer.HandleLogConsumeReq extra_data).isSome ↔
      ¬Overruns 256 consumeHead (Http.cStr extra_data)) ∧
    ((LogServer.HandleLogItemReq extra_data).isSome ↔ ¬Overruns 256 itemHead (Http.cStr extra_data)) :=
  ⟨⟨consume_received_iff, item_received_iff⟩, consume_stored_iff extra_data, item_stored_iff extra_data⟩

theorem log_survives_shop : LogServer.HandleLogConsumeReq (LogClient.LogConsume 1 (-5) (Http.ascii "shop")) =
    some (1, -5, Http.ascii "shop") :=
  ((log_survives_iff 1 (-5) 0 0 (Http.ascii "shop") []).1.1 (by decide)).2 (plain_of_all rfl)

/-- **A reason of two words loses the second**, and a text can overrun the reason. -/
theorem reason_lost : ¬(∀ (type amount : BitVec 32) (reason : List UInt8),
      Fits consumeHead [type, amount] reason →
        LogServer.HandleLogConsumeReq (LogClient.LogConsume type amount reason) =
          some (type, amount, reason)) ∧
    ¬∀ extra_data, (LogServer.HandleLogConsumeReq extra_data).isSome := by
  constructor
  · intro h
    have hfits : Fits consumeHead [1, -5] (Http.ascii "big sword") := by decide
    exact absurd ((consume_received_iff hfits).1 (h 1 (-5) _ hfits) 32 (by decide)).1 (by decide)
  · intro h
    have hlong := h (print consumeHead [1, 1] [] ++ .replicate 256 97)
    have hnul : ∀ c ∈ print consumeHead [1, 1] [] ++ .replicate 256 97, c ≠ 0 := by
      intro c hc
      rcases List.mem_append.1 hc with hc | hc
      · exact ne_zero_of_print (by decide) _ _ c hc
      · rw [List.eq_of_mem_replicate hc]
        decide
    rw [consume_stored_iff, cStr_eq_self hnul] at hlong
    refine hlong ⟨_, [1, 1], [], .replicate 256 97, [], matches_print separated_consume (takes_consume 1 1),
      nofun, fun c hc => ?_, List.length_replicate, by rw [List.nil_append, List.append_nil]⟩
    rw [List.eq_of_mem_replicate hc]
    rfl

end Ancfl.Game.LogWire
