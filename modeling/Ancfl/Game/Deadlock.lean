/-
  `cache_mutex_` of the modules of the logic server is a `std::mutex`: a second
  lock by the call that holds it never returns.

  * `locksTwice_iff`: the operations that take it twice, and where;
  * `joinGuild_deadlocks`: whoever joins a guild is one of them.
-/
import Ancfl.Game.Buff
import Ancfl.Game.Friend
import Ancfl.Game.Guild
import Ancfl.Game.Shop
import Ancfl.Game.Task

namespace Ancfl.Game

open Lib

/-- **The operations that deadlock on themselves**: exactly those that take the mutex twice. -/
theorem locksTwice_iff (now : ℤ) :
    (∀ (op : Guild.Op) (s : Guild.GuildModule),
      (op.call now).Deadlocks .free s ↔ op.LocksTwice) ∧
    (∀ (op : Shop.Op) (s : Shop.ShopModule),
      (op.call now).Deadlocks .free s ↔ op.LocksTwice s) ∧
    (∀ (op : Friend.Op) (s : Friend.FriendModule),
      (op.call now).Deadlocks .free s ↔ op.LocksTwice s) ∧
    (∀ (op : Task.Op) (s : Task.TaskModule),
      (op.call now).Deadlocks .free s ↔ op.LocksTwice s) ∧
    (∀ (op : Buff.Op) (s : Buff.BuffModule),
      (op.call now).Deadlocks .free s ↔ op.LocksTwice s) :=
  ⟨Guild.deadlocks_iff now, Shop.deadlocks_iff now, Friend.deadlocks_iff now,
    Task.deadlocks_iff now, Buff.deadlocks_iff now⟩

/-- The role 1 joins the guild 7, which there is. -/
theorem joinGuild_deadlocks :
    ((Guild.Op.JoinGuild 1 7).call 0).Deadlocks .free
      ⟨AList.singleton 7 {
        guild_id := 7, guild_name := "Test Guild", leader_id := 0, leader_name := "Test Leader",
        level := 1, exp := 0, member_count := 0, max_member_count := 50, fund := 0,
        announcement := "", description := "", create_time := 0, need_approval := false }, ∅, ∅, 8⟩ :=
  (Guild.deadlocks_iff 0 _ _).2 trivial

end Ancfl.Game
