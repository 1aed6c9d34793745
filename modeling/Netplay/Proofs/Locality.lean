/-
Module: Netplay.Proofs.Locality
Purpose: What is done in a game rests on that game and the entries of its members and of
  the user that asks for it, changes the entries of members only, and is told to them.
Main exports:
  Affair, Room.Reply, Room.attend, Room.Confines, Room.Local, Room.local_attend,
  Affair.Loyal, Room.reach_attend
-/
import Netplay.Proofs.Changes
import Netplay.Proofs.Senders

namespace Netplay

/-! ## Affairs of a game -/

/-- Something that a user asks for in its game, or the retrial of a merge. -/
inductive Affair where
  | start (user : UserId)
  | ready (user : UserId)
  | drop (user : UserId)
  /-- The first user bars the second one, which then leaves. -/
  | kick (user target : UserId)
  | leave (user : UserId)
  | chat (user : UserId) (message : String)
  /-- A gap in the messages of a user. -/
  | gap (user : UserId)
  /-- A user hands in a message of input. -/
  | input (now ticket : Nat) (user : UserId) (data : Bytes)
  /-- A parked merge of a game, live or closed, is retried. -/
  | retry (now : Nat) (game : GameId) (ticket : Nat)
deriving Repr, DecidableEq

/-- The user that asks for it. -/
def Affair.asker? : Affair → Option UserId
  | start user | ready user | drop user | kick user _ | leave user | chat user _ | gap user
  | input _ _ user _ => some user
  | retry _ _ _ => none

/-- What an affair makes of the room of its game, and what comes of it. -/
structure Room.Reply where
  room : Room
  letters : List Letter
  /-- What the user that asks is told, unless it has to wait. -/
  result : Option (Except Refusal Unit)
  /-- The game is closed with it. -/
  closes : Bool

namespace Room

variable {α : Type}

/-- A step is answered at once. -/
def Reply.of (step : Step Room α) : Reply :=
  ⟨step.state, step.letters, some step.void.result, false⟩

/-- A merge may have to wait. -/
def Reply.ofMerge (made : Room × List Letter × Progress) : Reply :=
  ⟨made.1, made.2.1, made.2.2.result?, false⟩

/-- Nothing happens. -/
def Reply.nothing (room : Room) : Reply := ⟨room, [], none, false⟩

/-- A member leaves; the owner closes the game with it. -/
def part (room : Room) (id : UserId) : Reply :=
  let quit := room.quit id
  if quit.result = .ok () ∧ id = room.game.owner then
    { Reply.of quit with room := (quit.state.close id).state, closes := true }
  else .of quit

/-- The owner bars a member, which then leaves. -/
def expel (room : Room) (id target : UserId) : Reply :=
  let bar := room.kick id target
  match bar.result with
  | .error _ => .of bar
  | .ok _ => .of (bar.state.quit target)

/-- A parked merge is retried if its queue has changed or its time has run out. -/
def retry (room : Room) (now ticket : Nat) : Reply :=
  match room.game.inFlight.find? (·.merge.ticket = ticket) with
  | none => .nothing room
  | some parked =>
      if parked ∈ room.game.woken ∨ parked.deadline ≤ now then
        .ofMerge ((room.unpark ticket).resume now parked)
      else .nothing room

/-- What an affair makes of the room of its game. -/
def attend (room : Room) : Affair → Reply
  | .start user => .of (room.start user)
  | .ready user => .of (room.ready user)
  | .drop user => .of (room.drop user)
  | .kick user target => room.expel user target
  | .leave user => room.part user
  | .chat user message => .of (room.chat user message)
  | .gap user =>
      ⟨(room.droppedPacket user).1, (room.droppedPacket user).2, some (.ok ()), false⟩
  | .input now ticket user data => .ofMerge (room.addData now ticket user data)
  | .retry now _ ticket => room.retry now ticket

/-! ### Steps that rest on few users -/

/-- Wherever the users `ids` have the same entries, the step is the same, and it changes the
entries of members only, in the same way. -/
def Confines (room : Room) (ids : List UserId) (step : Room → Step Room α) : Prop :=
  ∃ changes : List Roster.Change, (∀ change ∈ changes, change.user ∈ room.game.members) ∧
    ∀ later, room.people.Alike later ids →
      step ⟨room.game, later⟩ =
        ⟨⟨(step room).state.game, later.amend changes⟩, (step room).letters, (step room).result⟩

variable {room : Room} {ids : List UserId} {step : Room → Step Room α}

/-- A step that changes no entry. -/
theorem Confines.still (same : ∀ later, room.people.Alike later ids →
      step ⟨room.game, later⟩ =
        ⟨⟨(step room).state.game, later⟩, (step room).letters, (step room).result⟩) :
    room.Confines ids step :=
  ⟨[], nofun, same⟩

variable (room) (id : UserId)

/-- The changes by which players are numbered. -/
def numbering (members : List UserId) (change : UInt8 → User → User)
    (keeps : ∀ player user, (change player user).id = user.id) : List Roster.Change :=
  members.zipIdx.map fun (id, index) => ⟨id, change (UInt8.ofNat (index + 1)), keeps _⟩

theorem amend_numbering (people : Roster) (members : List UserId)
    (change : UInt8 → User → User) (keeps : ∀ player user, (change player user).id = user.id) :
    numberPlayers people members change = people.amend (numbering members change keeps) := by
  rw [numbering, Roster.amend, List.foldl_map, numberPlayers]

theorem among_numbering {members : List UserId} {change : UInt8 → User → User}
    {keeps : ∀ player user, (change player user).id = user.id} :
    ∀ entry ∈ numbering members change keeps, entry.user ∈ members := by
  intro entry member
  obtain ⟨⟨id, index⟩, place, rfl⟩ := List.mem_map.mp member
  exact (List.mem_zipIdx' place).2 ▸ List.getElem_mem _

theorem confines_start : room.Confines (id :: room.game.members) (·.start id) := by
  by_cases owner : id ≠ room.game.owner
  · exact .still fun later _ => by simp only [start, if_pos owner, Step.refuse]
  by_cases busy : room.game.status ≠ .waiting
  · exact .still fun later _ => by simp only [start, if_neg owner, if_pos busy, Step.refuse]
  by_cases nobody : room.game.members = []
  · exact .still fun later _ => by
      simp only [start, if_neg owner, if_neg busy, if_pos nobody, Step.refuse]
  have kinds {later : Roster} (alike : room.people.Alike later (id :: room.game.members)) :
      (later.person room.game.owner).connectionType =
        (room.people.person room.game.owner).connectionType := by
    rw [← Decidable.not_not.mp owner, alike.person List.mem_cons_self]
  have differs {later : Roster} (alike : room.people.Alike later (id :: room.game.members))
      (wanted : UInt8) :
      (room.game.members.any fun member => (later.person member).connectionType ≠ wanted) =
        room.game.members.any fun member =>
          (room.people.person member).connectionType ≠ wanted := by
    rw [Bool.eq_iff_iff, List.any_eq_true, List.any_eq_true]
    refine exists_congr fun member => and_congr_right fun here => ?_
    rw [alike.person (List.mem_cons_of_mem _ here)]
  by_cases mixed : (room.game.members.any fun member => (room.people.person member).connectionType ≠
      (room.people.person room.game.owner).connectionType) = true
  · exact .still fun later alike => by
      simp only [start, if_neg owner, if_neg busy, if_neg nobody, kinds alike, differs alike,
        if_pos mixed]
  · refine ⟨numbering room.game.members seatPlayer fun player user =>
      show (seatPlayer player user).id = user.id from rfl, among_numbering, fun later alike => ?_⟩
    rw [← amend_numbering]
    simp only [start, if_neg owner, if_neg busy, if_neg nobody, kinds alike, differs alike,
      if_neg mixed, Step.done]
    rfl

theorem confines_ready : room.Confines (id :: room.game.members) (·.ready id) := by
  refine .still fun later alike => ?_
  simp only [ready, alike.person List.mem_cons_self]
  split
  · rfl
  · split
    · rfl
    · split
      · rfl
      · split
        · rfl
        · rfl

theorem confines_chat (message : String) :
    room.Confines (id :: room.game.members) (·.chat id message) := by
  refine .still fun later alike => ?_
  simp only [chat, alike.person List.mem_cons_self]
  split
  · rfl
  · rfl

/-- Barring rests on the game alone. -/
theorem confines_kick (target : UserId) : room.Confines [] (·.kick id target) := by
  refine .still fun later _ => ?_
  simp only [kick]
  split
  · rfl
  · split
    · rfl
    · split
      · rfl
      · rfl

/-- The change by which a member rests. -/
def resting : Roster.Change := ⟨id, fun user => { user with status := .idle }, fun _ => rfl⟩

/-- Some member plays, also when the user rests. -/
def playing : Bool :=
  room.game.members.any fun member => ((room.rested id).person member).status = .playing

/-- A member with a seat is dropped, and it is told to all. -/
theorem drop_eq {slot : Nat} (member : id ∈ room.game.members) (on : room.game.queues ≠ [])
    (seat : room.game.slotFor? (room.people.person id) = some slot) :
    room.drop id =
      .done (room.bench id slot)
        ((room.bench id slot).game.tellAll
          (.userDropped ((room.rested id).person id) (room.people.person id).player))
        (!room.playing id) := by
  have settled : (if (room.game.silence slot).synched = true ∧
        (room.game.silence slot).synchedCount < 2 then
      (room.game.silence slot).desynchAll else room.game.silence slot) =
        room.game.hush slot := by
    rw [Game.hush, Game.desynchIfAlone]
    split
    · rfl
    · rfl
  have members : (room.game.hush slot).members = room.game.members :=
    (Game.Keeps.hush room.game slot).members
  have benched : room.bench id slot =
      ⟨if (!room.playing id) = true then
          { (room.game.hush slot).endRound with status := .waiting }
        else room.game.hush slot, room.rested id⟩ := by
    unfold bench playing
    cases room.game.members.any fun member =>
        ((room.rested id).person member).status = .playing with
    | true => rfl
    | false => rfl
  rw [drop, if_neg (not_not_intro member), if_neg on, seat, benched]
  simp only
  rw [settled, members]
  rfl

theorem confines_drop : room.Confines (id :: room.game.members) (·.drop id) := by
  by_cases stranger : id ∉ room.game.members
  · exact .still fun later _ => by simp only [drop, if_pos stranger, Step.refuse]
  by_cases idle : room.game.queues = []
  · exact .still fun later _ => by
      simp only [drop, if_neg stranger, if_pos idle, Step.refuse]
  have member := Decidable.not_not.mp stranger
  cases seat : room.game.slotFor? (room.people.person id) with
  | none =>
      exact .still fun later alike => by
        simp only [drop, if_neg stranger, if_neg idle, alike.person List.mem_cons_self, seat,
          Step.refuse]
  | some slot =>
      refine ⟨[resting id], fun change isOne => List.mem_singleton.mp isOne ▸ member,
        fun later alike => ?_⟩
      have self := alike.person List.mem_cons_self
      have rest : (room.rested id).Alike (rested ⟨room.game, later⟩ id) (id :: room.game.members) :=
        alike.update (resting id).keeps
      have plays : playing ⟨room.game, later⟩ id = room.playing id := by
        rw [playing, playing, Bool.eq_iff_iff, List.any_eq_true, List.any_eq_true]
        refine exists_congr fun other => and_congr_right fun here => ?_
        rw [rest.person (List.mem_cons_of_mem _ here)]
      have benched : bench ⟨room.game, later⟩ id slot =
          ⟨(room.bench id slot).game, later.amend [resting id]⟩ := by
        unfold bench
        unfold playing at plays
        rw [plays]
        split
        · rfl
        · rfl
      simp only
      rw [drop_eq room id member idle seat,
        drop_eq ⟨room.game, later⟩ id member idle ((congrArg _ self).trans seat), plays, self,
        rest.person List.mem_cons_self, benched]
      rfl

/-- The change by which a user is in no game any more. -/
def leaving : Roster.Change := ⟨id, (·.leaveGame), fun _ => rfl⟩

/-- The changes by which a member goes. -/
def clearing : List Roster.Change :=
  leaving id ::
    (if room.game.status = .waiting then
      numbering (room.game.members.filter (· ≠ id)) renumber fun player user =>
        show (renumber player user).id = user.id from rfl
    else [])

theorem without_eq (people : Roster) : without ⟨room.game, people⟩ id =
    ⟨(room.without id).game, people.amend (room.clearing id)⟩ := by
  unfold without clearing
  simp only
  split
  · rw [amend_numbering _ _ renumber fun player user =>
      show (renumber player user).id = user.id from rfl]
    rfl
  · rfl

theorem among_clearing (member : id ∈ room.game.members) :
    ∀ change ∈ room.clearing id, change.user ∈ room.game.members := by
  intro change isOne
  rcases List.mem_cons.mp isOne with rfl | others
  · exact member
  · split at others
    · exact (List.mem_filter.mp (among_numbering change others)).1
    · cases others

/-- One that still plays is dropped first, which rests on the same users. -/
theorem confines_shed : ∃ changes : List Roster.Change,
    (∀ change ∈ changes, change.user ∈ room.game.members) ∧
      ∀ later, room.people.Alike later (id :: room.game.members) →
        shed ⟨room.game, later⟩ id = ⟨(room.shed id).game, later.amend changes⟩ ∧
          shedLetters ⟨room.game, later⟩ id = room.shedLetters id := by
  unfold shed shedLetters
  simp only
  by_cases plays : (room.people.person id).status = .playing ∧ room.game.status ≠ .waiting
  · obtain ⟨changes, among, same⟩ := room.confines_drop id
    refine ⟨changes, among, fun later alike => ?_⟩
    have same := same later alike
    simp only at same
    rw [alike.person List.mem_cons_self, if_pos plays, if_pos plays, if_pos plays, if_pos plays,
      same]
    exact ⟨rfl, rfl⟩
  · refine ⟨[], nofun, fun later alike => ?_⟩
    rw [alike.person List.mem_cons_self, if_neg plays, if_neg plays, if_neg plays, if_neg plays]
    exact ⟨rfl, rfl⟩

theorem confines_quit : room.Confines (id :: room.game.members) (·.quit id) := by
  by_cases stranger : id ∉ room.game.members
  · refine .still fun later _ => ?_
    rw [room.quit_stranger id stranger, quit_stranger ⟨room.game, later⟩ id stranger]
    rfl
  have member := Decidable.not_not.mp stranger
  obtain ⟨changes, among, sheds⟩ := room.confines_shed id
  have plays : room.Plays True (room.shed id) := plays_shed id
  refine ⟨changes ++ (room.shed id).clearing id, fun change isOne => ?_, fun later alike => ?_⟩
  · rcases List.mem_append.mp isOne with first | second
    · exact among change first
    · rw [← plays.keeps.members] at member ⊢
      exact (room.shed id).among_clearing id member change second
  obtain ⟨shed, letters⟩ := sheds later alike
  have people : (room.shed id).people = room.people.amend changes :=
    congrArg Room.people (sheds room.people (.refl _ _)).1
  have left : left ⟨room.game, later⟩ id =
      ⟨(room.left id).game, (later.amend changes).amend ((room.shed id).clearing id)⟩ := by
    rw [Room.left, shed, without_eq (room.shed id), Room.left]
  have parts : parting ⟨room.game, later⟩ id = room.parting id := by
    have gone : ((room.people.amend changes).update id (·.leaveGame)).Alike
        ((later.amend changes).update id (·.leaveGame)) (id :: room.game.members) :=
      (alike.amend changes).update (leaving id).keeps
    rw [parting, parting, shed, people]
    exact congrArg GameEvent.userQuit (gone.person List.mem_cons_self)
  simp only
  rw [quit_eq room id member, quit_eq ⟨room.game, later⟩ id member, left, letters, parts,
    Roster.amend_append]
  rfl

theorem confines_close : room.Confines [] (·.close id) := by
  by_cases other : id ≠ room.game.owner
  · exact .still fun later _ => by simp only [close, if_pos other, Step.refuse]
  · refine ⟨room.game.members.map leaving, fun change isOne => ?_, fun later _ => ?_⟩
    · obtain ⟨member, here, rfl⟩ := List.mem_map.mp isOne
      exact here
    · simp only [close, if_neg other, Step.done, Roster.amend, List.foldl_map]
      rfl

/-! ### Affairs that rest on few users -/

/-- Wherever the users `ids` have the same entries, the same is made of the game, the same
comes of it, and entries of members only are changed, in the same way.  Where the users that
are named have the same entries, too, the same is told. -/
def Local (room : Room) (ids named : List UserId) (reply : Room → Reply) : Prop :=
  ∃ changes : List Roster.Change, (∀ change ∈ changes, change.user ∈ room.game.members) ∧
    ∀ later, room.people.Alike later ids →
      (reply ⟨room.game, later⟩).room = ⟨(reply room).room.game, later.amend changes⟩ ∧
        (reply ⟨room.game, later⟩).result = (reply room).result ∧
        (reply ⟨room.game, later⟩).closes = (reply room).closes ∧
        (room.people.Alike later named →
          (reply ⟨room.game, later⟩).letters = (reply room).letters)

variable {room} {id}

/-- The reply is the same altogether. -/
theorem Local.of_eq {ids named : List UserId} {reply : Room → Reply}
    (changes : List Roster.Change) (among : ∀ change ∈ changes, change.user ∈ room.game.members)
    (same : ∀ later, room.people.Alike later ids →
      reply ⟨room.game, later⟩ =
        { reply room with room := ⟨(reply room).room.game, later.amend changes⟩ }) :
    room.Local ids named reply := by
  refine ⟨changes, among, fun later alike => ?_⟩
  rw [same later alike]
  exact ⟨rfl, rfl, rfl, fun _ => rfl⟩

/-- A step that rests on few users does so with its answer. -/
theorem Confines.answer {ids : List UserId} {step : Room → Step Room α}
    (confines : room.Confines ids step) (named : List UserId) :
    room.Local ids named fun room => .of (step room) := by
  obtain ⟨changes, among, same⟩ := confines
  refine .of_eq changes among fun later alike => ?_
  rw [same later alike]
  rfl

/-- Members that a leaving member leaves behind were there before. -/
theorem members_quit {user : UserId} (here : user ∈ (room.quit id).state.game.members) :
    user ∈ room.game.members := by
  rcases room.quit_cases id with ⟨refused, -⟩ | ⟨-, makes⟩
  · rwa [refused.state] at here
  · obtain ⟨_, -, leaves⟩ := room.left_game id
    rw [makes.state, leaves] at here
    exact (List.mem_filter.mp here).1

/-- The game stays open unless its owner leaves. -/
theorem part_open (stays : ¬((room.quit id).result = .ok () ∧ id = room.game.owner)) :
    room.part id = .of (room.quit id) :=
  if_neg stays

theorem local_part (room : Room) (id : UserId) (named : List UserId) :
    room.Local (id :: room.game.members) named (·.part id) := by
  obtain ⟨parts, among, quits⟩ := room.confines_quit id
  by_cases closes : (room.quit id).result = .ok () ∧ id = room.game.owner
  · obtain ⟨closing, closingAmong, shuts⟩ := (room.quit id).state.confines_close id
    refine .of_eq (parts ++ closing) (fun change isOne => ?_) fun later alike => ?_
    · rcases List.mem_append.mp isOne with first | second
      · exact among change first
      · exact members_quit (closingAmong change second)
    · have quit := quits later alike
      have shut := shuts (later.amend parts) fun _ => nofun
      simp only at quit shut
      simp only [part, quit, if_pos closes, shut, Roster.amend_append]
      rfl
  · refine .of_eq parts among fun later alike => ?_
    have quit := quits later alike
    simp only at quit
    simp only [part, quit, if_neg closes]
    rfl

theorem local_expel (room : Room) (id target : UserId) (named : List UserId) :
    room.Local (id :: room.game.members) named (·.expel id target) := by
  obtain ⟨bars, barsAmong, barred⟩ := room.confines_kick id target
  rcases room.kick_cases id target with refused | ⟨kicked, -, -, -, member, makes⟩
  · obtain ⟨refusal, failed⟩ := refused.result
    refine .of_eq bars barsAmong fun later _ => ?_
    have bar := barred later fun _ => nofun
    simp only at bar
    simp only [expel, bar, failed, Reply.of, Step.void]
  · obtain ⟨value, done⟩ := makes.result
    obtain ⟨parts, partsAmong, quits⟩ := (room.kick id target).state.confines_quit target
    have members : (room.kick id target).state.game.members = room.game.members := by
      rw [makes.state]
    have people : (room.kick id target).state.people = room.people.amend bars :=
      congrArg (·.state.people) (barred room.people fun _ => nofun)
    rw [members, people] at quits
    rw [members] at partsAmong
    refine .of_eq (bars ++ parts) (fun change isOne => ?_) fun later alike => ?_
    · exact (List.mem_append.mp isOne).elim (barsAmong change) (partsAmong change)
    · have bar := barred later fun _ => nofun
      have within : target :: room.game.members ⊆ id :: room.game.members := by
        intro user isOne
        rcases List.mem_cons.mp isOne with rfl | other
        · exact List.mem_cons_of_mem _ member
        · exact List.mem_cons_of_mem _ other
      have quit := quits (later.amend bars) ((alike.mono within).amend bars)
      simp only at bar quit
      simp only [expel, bar, done, quit, Roster.amend_append]
      rfl

/-! ### Merges -/

/-- Who is around makes no difference to the collecting of shares. -/
theorem collect_elsewhere (game : Game) (people later : Roster) (now : Nat) (merge : Merge)
    (remaining : Nat) :
    collect ⟨game, later⟩ now merge remaining =
      (⟨(collect ⟨game, people⟩ now merge remaining).1.game, later⟩,
        (collect ⟨game, people⟩ now merge remaining).2) := by
  induction remaining generalizing game merge with
  | zero =>
      unfold collect
      split
      · rfl
      · rfl
  | succ remaining inductionHypothesis =>
      unfold collect
      simp only
      split
      · rfl
      · split
        · rfl
        · split
          · exact inductionHypothesis _ _
          · rfl
          · rfl

theorem local_addData (room : Room) (now ticket : Nat) (id : UserId) (data : Bytes)
    (named : List UserId) :
    room.Local (id :: room.game.members) named fun room =>
      .ofMerge (room.addData now ticket id data) := by
  refine .of_eq [] nofun fun later alike => ?_
  unfold addData
  simp only [alike.person List.mem_cons_self]
  split
  · rfl
  · split
    · rfl
    · split
      · rfl
      · split
        · rfl
        · rw [collect_elsewhere _ room.people later]
          rfl

theorem local_droppedPacket (room : Room) (id : UserId) (named : List UserId) :
    room.Local (id :: room.game.members) named fun room =>
      ⟨(room.droppedPacket id).1, (room.droppedPacket id).2, some (.ok ()), false⟩ := by
  refine .of_eq [] nofun fun later alike => ?_
  unfold droppedPacket
  simp only [alike.person List.mem_cons_self]
  split
  · rfl
  · split
    · rfl
    · split
      · rfl
      · rfl

end Room

/-- The users on whom time-outs may be blamed: those of the queues in synchrony, as long as
input is merged. -/
def Game.blamed (game : Game) : List UserId :=
  if game.synched then (game.queues.filter (·.synched)).map (·.user) else []

/-- They have the same entries, as they are looked up when a time-out is noted. -/
def Game.SameBlame (game : Game) (people later : Roster) : Prop :=
  game.synched = true → ∀ slot queue, game.queues[slot]? = some queue → queue.synched = true →
    later.person (game.queueUsers.getD slot 0) = people.person (game.queueUsers.getD slot 0)

theorem Game.sameBlame {game : Game} {people later : Roster}
    (users : game.queueUsers = game.queues.map (·.user))
    (alike : people.Alike later game.blamed) : game.SameBlame people later := by
  intro merging slot queue place synched
  have user : game.queueUsers.getD slot 0 = queue.user := by
    rw [users, List.getD_eq_getElem?_getD, List.getElem?_map, place]
    rfl
  refine alike.person ?_
  rw [user, blamed, if_pos merging]
  exact List.mem_map.mpr
    ⟨queue, List.mem_filter.mpr ⟨List.mem_of_getElem? place, synched⟩, rfl⟩

namespace Room

/-- Who is around makes no difference to what a time-out does to the game.  On whom it is
blamed is told. -/
theorem noteTimeout_elsewhere (game : Game) (people later : Roster) (timeout : ReadTimeout) :
    (noteTimeout ⟨game, later⟩ timeout).1 = ⟨(noteTimeout ⟨game, people⟩ timeout).1.game, later⟩ ∧
      (game.SameBlame people later →
        (noteTimeout ⟨game, later⟩ timeout).2 = (noteTimeout ⟨game, people⟩ timeout).2) := by
  unfold noteTimeout
  simp only
  split
  · exact ⟨rfl, fun _ => rfl⟩
  · rename_i merging
    have merging : game.synched = true := by simpa using (not_or.mp merging).1
    split
    · exact ⟨rfl, fun _ => rfl⟩
    · rename_i queue place
      split
      · exact ⟨rfl, fun _ => rfl⟩
      · rename_i heeded
        have synched : queue.synched = true := by simpa using (not_or.mp heeded).1
        split
        · exact ⟨rfl, fun same => by rw [same merging _ queue place synched]⟩
        · exact ⟨rfl, fun same => by rw [same merging _ queue place synched]⟩

/-- So it is when the merge goes on after that. -/
theorem lapse_elsewhere (game : Game) (people later : Roster) (now : Nat)
    (timeout : ReadTimeout) (merge : Merge) (remaining : Nat) :
    ((noteTimeout ⟨game, later⟩ timeout).1.collect now merge remaining).1 =
        ⟨((noteTimeout ⟨game, people⟩ timeout).1.collect now merge remaining).1.game, later⟩ ∧
      ((noteTimeout ⟨game, later⟩ timeout).1.collect now merge remaining).2.2 =
        ((noteTimeout ⟨game, people⟩ timeout).1.collect now merge remaining).2.2 ∧
      (game.SameBlame people later →
        (noteTimeout ⟨game, later⟩ timeout).2 ++
            ((noteTimeout ⟨game, later⟩ timeout).1.collect now merge remaining).2.1 =
          (noteTimeout ⟨game, people⟩ timeout).2 ++
            ((noteTimeout ⟨game, people⟩ timeout).1.collect now merge remaining).2.1) := by
  obtain ⟨noted, told⟩ := noteTimeout_elsewhere game people later timeout
  rw [noted, collect_elsewhere _ (noteTimeout ⟨game, people⟩ timeout).1.people]
  exact ⟨rfl, rfl, fun same => by rw [told same]⟩

/-- So it is when a merge is retried. -/
theorem resume_elsewhere (game : Game) (people later : Roster) (now : Nat)
    (parked : ParkedMerge) :
    (resume ⟨game, later⟩ now parked).1 = ⟨(resume ⟨game, people⟩ now parked).1.game, later⟩ ∧
      (resume ⟨game, later⟩ now parked).2.2 = (resume ⟨game, people⟩ now parked).2.2 ∧
      (game.SameBlame people later →
        (resume ⟨game, later⟩ now parked).2.1 = (resume ⟨game, people⟩ now parked).2.1) := by
  unfold resume
  simp only
  split
  · exact ⟨rfl, rfl, fun _ => rfl⟩
  · split
    · rw [collect_elsewhere _ people later]
      exact ⟨rfl, rfl, fun _ => rfl⟩
    · exact lapse_elsewhere game people later now _ _ _
    · split
      · exact lapse_elsewhere game people later now _ _ _
      · exact ⟨rfl, rfl, fun _ => rfl⟩

theorem local_retry (room : Room) (now ticket : Nat)
    (users : room.game.queueUsers = room.game.queues.map (·.user)) :
    room.Local [] room.game.blamed (·.retry now ticket) := by
  refine ⟨[], nofun, fun later _ => ?_⟩
  unfold retry
  simp only
  split
  · exact ⟨rfl, rfl, rfl, fun _ => rfl⟩
  · split
    · obtain ⟨after, progress, told⟩ :=
        resume_elsewhere (room.unpark ticket).game room.people later now _
      exact ⟨after, congrArg Progress.result? progress, rfl,
        fun alike => told (Game.sameBlame users alike)⟩
    · exact ⟨rfl, rfl, rfl, fun _ => rfl⟩

end Room

/-- The users whose entries an affair in the game may rest on. -/
def Affair.parties (affair : Affair) (game : Game) : List UserId :=
  affair.asker?.toList ++ game.members

/-- The users that are named in what is told of it, besides those. -/
def Affair.named (game : Game) : Affair → List UserId
  | .retry _ _ _ => game.blamed
  | _ => []

/-- Every affair rests on the entries of few users, and changes those of members only. -/
theorem Room.local_attend (room : Room)
    (users : room.game.queueUsers = room.game.queues.map (·.user)) (affair : Affair) :
    room.Local (affair.parties room.game) (affair.named room.game) (·.attend affair) := by
  cases affair with
  | start user => exact (room.confines_start user).answer _
  | ready user => exact (room.confines_ready user).answer _
  | drop user => exact (room.confines_drop user).answer _
  | kick user target => exact room.local_expel user target _
  | leave user => exact room.local_part user _
  | chat user message => exact (room.confines_chat user message).answer _
  | gap user => exact room.local_droppedPacket user _
  | input now ticket user data => exact room.local_addData now ticket user data _
  | retry now number ticket =>
      obtain ⟨changes, among, same⟩ := room.local_retry now ticket users
      exact ⟨changes, among, fun later _ => same later fun _ => nofun⟩

/-! ## Who is told -/

/-- The sender of the merge that is retried is a member where input is merged, and so are
those on whom its time-outs may be blamed. -/
def Affair.Loyal (game : Game) : Affair → Prop
  | .retry _ _ ticket =>
      (game.synched = true → ∀ parked ∈ game.inFlight, parked.merge.ticket = ticket →
        parked.merge.user ∈ game.members) ∧
      ∀ user ∈ game.blamed, user ∈ game.members
  | _ => True

/-- Where an affair is loyal, those that are named in what is told of it are members. -/
theorem Affair.Loyal.named {affair : Affair} {game : Game} (loyal : affair.Loyal game) :
    ∀ user ∈ affair.named game, user ∈ game.members := by
  cases affair with
  | retry now number ticket => exact loyal.2
  | _ => exact fun _ => nofun

namespace Room

open Game

variable {room : Room} {deed : Deed}

/-- What is told is about the game, and goes to its members, but for frames, which go to the
senders of input that is merged. -/
def Reaches (room : Room) (ids : List UserId) (letters : List Letter) : Prop :=
  ∀ letter ∈ letters, letter.event.about? = some room.game.id ∧ letter.recipient ∈ ids

/-- Nobody hears of an operation but members and, where input is merged, the sender of the
merge that it works on. -/
theorem reach_perform (fits : deed.Fits room) (enters : ∀ user, deed ≠ .join user)
    {ids : List UserId} (members : room.game.members ⊆ ids)
    (sender : room.game.synched = true → ∀ user ∈ deed.sender?, user ∈ ids) :
    room.Reaches ids (room.perform deed).2 := by
  intro letter told
  refine ⟨about_perform fits letter told, ?_⟩
  by_cases still : deed.Still
  · obtain ⟨-, -, frame | member⟩ := (confides_perform fits still).1 letter told
    · obtain ⟨sends, merging⟩ := frames_perform room deed letter told frame
      exact sender merging _ sends
    · exact members member
  · cases deed with
    | join user => exact absurd rfl (enters user)
    | quit user =>
        rcases room.letters_quit user with ⟨-, silent⟩ | ⟨member, -, former, -, letters⟩
        · rw [perform, silent] at told
          cases told
        · rw [perform, letters] at told
          rcases List.mem_append.mp told with shed | parting
          · obtain ⟨-, -, frame | here⟩ := room.confides_shed user letter shed
            · rw [room.frameless_shed user letter shed] at frame
              cases frame
            · exact members here
          · rcases List.mem_cons.mp parting with rfl | others
            · exact members member
            · obtain ⟨recipient, stays, rfl⟩ := List.mem_map.mp others
              obtain ⟨_, -, leaves⟩ := room.left_game user
              rw [leaves] at stays
              exact members (List.mem_filter.mp stays).1
    | close user =>
        rw [perform, letters_close] at told
        cases told
    | _ => exact absurd trivial still

/-- Whatever is attended to in a game is told to those that take part in it. -/
theorem reach_attend {affair : Affair}
    (asks : ∀ user ∈ affair.asker?, (room.people.person user).game = some room.game.id)
    (loyal : affair.Loyal room.game) :
    room.Reaches (affair.parties room.game) (room.attend affair).letters := by
  have members : room.game.members ⊆ affair.parties room.game :=
    fun _ here => List.mem_append_right _ here
  cases affair with
  | start user =>
      exact @reach_perform room (.start user) trivial nofun _ members fun _ => nofun
  | ready user =>
      exact @reach_perform room (.ready user) trivial nofun _ members fun _ => nofun
  | drop user =>
      exact @reach_perform room (.drop user) trivial nofun _ members fun _ => nofun
  | chat user message =>
      exact @reach_perform room (.chat user message) trivial nofun _ members fun _ => nofun
  | gap user =>
      exact @reach_perform room (.gap user) trivial nofun _ members fun _ => nofun
  | input now ticket user data =>
      refine @reach_perform room (.input now ticket user data) (asks user rfl) nofun _ members ?_
      intro _ sender isUser
      obtain rfl := Option.some.inj isUser
      exact List.mem_append_left _ List.mem_cons_self
  | leave user =>
      have letters : (room.part user).letters = (room.quit user).letters := by
        simp only [part]
        split
        · rfl
        · rfl
      rw [attend, letters]
      exact @reach_perform room (.quit user) trivial nofun _ members fun _ => nofun
  | kick user target =>
      rw [attend, expel]
      rcases room.kick_cases user target with refused | ⟨kicked, -, -, -, -, makes⟩
      · obtain ⟨refusal, failed⟩ := refused.result
        simp only [failed, Reply.of, letters_kick]
        exact fun _ => nofun
      · obtain ⟨value, done⟩ := makes.result
        simp only [done, Reply.of, makes.state]
        exact @reach_perform ⟨{ room.game with kicked := kicked }, room.people⟩
          (.quit target) trivial nofun _ members fun _ => nofun
  | retry now number ticket =>
      rw [attend, retry]
      split
      · exact fun _ => nofun
      · rename_i parked found
        split
        · have same : parked.merge.ticket = ticket := by simpa using List.find?_some found
          have waits := List.mem_of_find?_eq_some found
          subst same
          refine @reach_perform room (.retry now parked) waits nofun _ members ?_
          intro merging _ sender
          obtain rfl := Option.some.inj sender
          exact members (loyal.1 merging parked waits rfl)
        · exact fun _ => nofun

/-! ## What stays of the game -/

/-- Whoever leaves, the game keeps its number. -/
theorem number_quit (room : Room) (user : UserId) :
    (room.quit user).state.game.id = room.game.id :=
  (@turn_perform room (.quit user) trivial).number

theorem number_expel (room : Room) (user target : UserId) :
    (room.expel user target).room.game.id = room.game.id := by
  have barred : (room.kick user target).state.game.id = room.game.id :=
    (@turn_perform room (.bar user target) trivial).number
  unfold expel
  simp only
  split
  · exact barred
  · exact (number_quit _ target).trans barred

theorem number_part (room : Room) (user : UserId) :
    (room.part user).room.game.id = room.game.id := by
  have shut : ((room.quit user).state.close user).state.game.id =
      (room.quit user).state.game.id :=
    (@turn_perform (room.quit user).state (.close user) trivial).number
  simp only [part]
  split
  · exact shut.trans (room.number_quit user)
  · exact room.number_quit user

/-- Whatever is attended to, the game keeps its number. -/
theorem number_attend (room : Room) (affair : Affair) :
    (room.attend affair).room.game.id = room.game.id := by
  have plays {after : Room} (plays : room.Plays True after) : after.game.id = room.game.id :=
    plays.keeps.id
  cases affair with
  | start user => exact plays (plays_start user)
  | ready user => exact plays (plays_ready fun _ => trivial)
  | drop user => exact plays (plays_drop user)
  | chat user message => exact plays (plays_chat user message)
  | gap user => exact plays (plays_droppedPacket user)
  | input now ticket user data => exact plays (plays_addData now ticket user data)
  | leave user => exact room.number_part user
  | kick user target => exact room.number_expel user target
  | retry now number ticket =>
      rw [attend, retry]
      split
      · rfl
      · split
        · exact plays (.work (works_retry now ticket _))
        · rfl

end Room

end Netplay
