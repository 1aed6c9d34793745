/-
Module: Netplay.Proofs.RosterBodies
Purpose: Lists of users, games and players read back from their message bodies, entry by
  entry.
Main exports:
  UserRow, GameRow, PlayerRow, readServerStatus, readPlayerInformation,
  Body.read_serverStatus, Body.read_playerInformation, Body.roster_bodies
-/
import Netplay.Proofs.Fields

namespace Netplay

open Netplay.Field

/-!
A roster is a body that opens with a blank text and the number of entries of each list;
the entries follow in the order of the lists.  A client reads it field by field from the
front, so that an entry is told from the next one only by what it holds.
-/

/-! ## Readers -/

/-- What the user list tells of a user. -/
structure UserRow where
  name : String
  ping : UInt32
  status : UInt8
  id : UserId
  connectionType : UInt8
deriving Repr, DecidableEq

/-- What the game list tells of a game. -/
structure GameRow where
  name : String
  id : GameId
  emulator : String
  ownerName : String
  /-- The player counts, as text. -/
  counts : String
  status : UInt8
deriving Repr, DecidableEq

/-- What the player list tells of a player. -/
structure PlayerRow where
  name : String
  ping : UInt32
  id : UserId
  connectionType : UInt8
deriving Repr, DecidableEq

/-- Everyone and every game at the relay, as a client reads it. -/
structure ServerRoster where
  opening : String
  userCount : Nat
  gameCount : Nat
  users : List UserRow
  games : List GameRow
deriving Repr, DecidableEq

/-- The other players of a game, as a client reads it. -/
structure PlayerRoster where
  opening : String
  playerCount : Nat
  players : List PlayerRow
deriving Repr, DecidableEq

/-- Name, ping, status, user number and connection type. -/
def readUserRow (body : Bytes) : Except FormatError (UserRow × Bytes) := do
  let (name, rest) ← text body
  let (ping, rest) ← u32 rest
  let (status, rest) ← u8 rest
  let (id, rest) ← u16 rest
  let (connectionType, rest) ← u8 rest
  return (⟨name, ping, status, id, connectionType⟩, rest)

/-- Name, game number, emulator, owner, player counts as text and status. -/
def readGameRow (body : Bytes) : Except FormatError (GameRow × Bytes) := do
  let (name, rest) ← text body
  let (id, rest) ← u32 rest
  let (emulator, rest) ← text rest
  let (ownerName, rest) ← text rest
  let (counts, rest) ← text rest
  let (status, rest) ← u8 rest
  return (⟨name, id, emulator, ownerName, counts, status⟩, rest)

/-- Name, ping, user number and connection type. -/
def readPlayerRow (body : Bytes) : Except FormatError (PlayerRow × Bytes) := do
  let (name, rest) ← text body
  let (ping, rest) ← u32 rest
  let (id, rest) ← u16 rest
  let (connectionType, rest) ← u8 rest
  return (⟨name, ping, id, connectionType⟩, rest)

/-- An empty text, the two counts, and so many users and games. -/
def readServerStatus (body : Bytes) : Except FormatError (ServerRoster × Bytes) := do
  let (opening, rest) ← text body
  let (userCount, rest) ← u32 rest
  let (gameCount, rest) ← u32 rest
  let (users, rest) ← rows readUserRow userCount.toNat rest
  let (games, rest) ← rows readGameRow gameCount.toNat rest
  return (⟨opening, userCount.toNat, gameCount.toNat, users, games⟩, rest)

/-- An empty text, the count, and so many players. -/
def readPlayerInformation (body : Bytes) : Except FormatError (PlayerRoster × Bytes) := do
  let (opening, rest) ← text body
  let (playerCount, rest) ← u32 rest
  let (players, rest) ← rows readPlayerRow playerCount.toNat rest
  return (⟨opening, playerCount.toNat, players⟩, rest)

/-! ## Entries -/

/-- The entry of a user in the user list. -/
def User.row (user : User) : UserRow :=
  ⟨Utf8.upToNul user.name, user.ping, user.status.code, user.id, user.connectionType⟩

/-- The entry of a game in the game list. -/
def GameSummary.row (game : GameSummary) : GameRow :=
  ⟨Utf8.upToNul game.name, game.id, Utf8.upToNul game.emulator, Utf8.upToNul game.ownerName,
    Body.playerCounts game, game.status.code⟩

/-- The entry of a user in a player list. -/
def User.playerRow (user : User) : PlayerRow :=
  ⟨Utf8.upToNul user.name, user.ping, user.id, user.connectionType⟩

namespace Body

theorem readUserRow_userEntry (user : User) (rest : Bytes) :
    readUserRow (userEntry user ++ rest) = .ok (user.row, rest) := by
  simp only [userEntry, List.append_assoc, readUserRow, bind, Except.bind, text_putText,
    u32_ofUInt32, u8_singleton, u16_ofUInt16]
  rfl

theorem readPlayerRow_playerEntry (user : User) (rest : Bytes) :
    readPlayerRow (playerEntry user ++ rest) = .ok (user.playerRow, rest) := by
  simp only [playerEntry, List.append_assoc, readPlayerRow, bind, Except.bind, text_putText,
    u32_ofUInt32, u8_singleton, u16_ofUInt16]
  rfl

/-- Player counts are digits and a slash. -/
theorem upToNul_playerCounts (game : GameSummary) :
    Utf8.upToNul (playerCounts game) = playerCounts game := by
  have noDigit (count : UInt8) : '\x00' ∉ Nat.toDigits 10 count.toNat := fun digit =>
    absurd (Nat.isDigit_of_mem_toDigits (by decide) (by decide) digit) (by decide)
  apply Utf8.upToNul_of_free
  have slash : '\x00' ∉ (toString "/").toList := by decide
  simp [playerCounts, noDigit, slash]

theorem readGameRow_gameEntry (game : GameSummary) (rest : Bytes) :
    readGameRow (gameEntry game ++ rest) = .ok (game.row, rest) := by
  simp only [gameEntry, List.append_assoc, readGameRow, bind, Except.bind, text_putText,
    u32_ofUInt32, u8_singleton, upToNul_playerCounts]
  rfl

/-! ## Rosters -/

/-- A count that fits 32 bits is exact. -/
theorem toNat_count {count : Nat} (few : count < UInt32.size) :
    (UInt32.ofNat count).toNat = count := by
  rw [UInt32.toNat_ofNat']
  exact Nat.mod_eq_of_lt few

/-- Everyone and every game reads back. -/
theorem read_serverStatus {users : List User} {games : List GameSummary}
    (fewUsers : users.length < UInt32.size) (fewGames : games.length < UInt32.size) :
    readServerStatus (serverStatus users games) =
      .ok (⟨"", users.length, games.length, users.map (·.row), games.map (·.row)⟩, []) := by
  have lastGames := rows_flatMap readGameRow_gameEntry games []
  rw [List.append_nil] at lastGames
  simp only [serverStatus, List.append_assoc, readServerStatus, bind, Except.bind, text_blank,
    u32_ofUInt32, toNat_count fewUsers, toNat_count fewGames,
    rows_flatMap readUserRow_userEntry, lastGames]
  rfl

/-- The players of a game read back. -/
theorem read_playerInformation {players : List User} (few : players.length < UInt32.size) :
    readPlayerInformation (playerInformation players) =
      .ok (⟨"", players.length, players.map (·.playerRow)⟩, []) := by
  have last := rows_flatMap readPlayerRow_playerEntry players []
  rw [List.append_nil] at last
  simp only [playerInformation, List.append_assoc, readPlayerInformation, bind, Except.bind,
    text_blank, u32_ofUInt32, toNat_count few, last]
  rfl

end Body

/-! ## Different rosters -/

/-- What a user list is to tell of a user. -/
def User.told (user : User) : String × UInt32 × UserStatus × UserId × UInt8 :=
  (user.name, user.ping, user.status, user.id, user.connectionType)

/-- What a game list is to tell of a game. -/
def GameSummary.told (game : GameSummary) :
    String × GameId × String × String × String × GameStatus :=
  (game.name, game.id, game.emulator, game.ownerName, Body.playerCounts game, game.status)

/-- What a player list is to tell of a player. -/
def User.toldOfPlayer (user : User) : String × UInt32 × UserId × UInt8 :=
  (user.name, user.ping, user.id, user.connectionType)

/-- The name of the user holds no NUL. -/
def User.NulFree (user : User) : Prop := '\x00' ∉ user.name.toList

/-- No text of the game that a list tells holds a NUL. -/
def GameSummary.NulFree (game : GameSummary) : Prop :=
  '\x00' ∉ game.name.toList ∧ '\x00' ∉ game.emulator.toList ∧ '\x00' ∉ game.ownerName.toList

instance (user : User) : Decidable user.NulFree := inferInstanceAs (Decidable (_ ∉ _))

instance (game : GameSummary) : Decidable game.NulFree :=
  inferInstanceAs (Decidable (_ ∉ _ ∧ _ ∉ _ ∧ _ ∉ _))

theorem UserStatus.code_inj {one other : UserStatus} (same : one.code = other.code) :
    one = other := by
  revert same
  cases one <;> cases other <;> decide

theorem GameStatus.code_inj {one other : GameStatus} (same : one.code = other.code) :
    one = other := by
  revert same
  cases one <;> cases other <;> decide

theorem User.told_of_row {one other : User} (free : one.NulFree) (otherFree : other.NulFree)
    (same : one.row = other.row) : one.told = other.told := by
  simp only [row, UserRow.mk.injEq, Utf8.upToNul_of_free free,
    Utf8.upToNul_of_free otherFree] at same
  obtain ⟨name, ping, status, id, connectionType⟩ := same
  rw [told, told, name, ping, UserStatus.code_inj status, id, connectionType]

theorem GameSummary.told_of_row {one other : GameSummary} (free : one.NulFree)
    (otherFree : other.NulFree) (same : one.row = other.row) : one.told = other.told := by
  simp only [row, GameRow.mk.injEq, Utf8.upToNul_of_free free.1,
    Utf8.upToNul_of_free free.2.1, Utf8.upToNul_of_free free.2.2,
    Utf8.upToNul_of_free otherFree.1, Utf8.upToNul_of_free otherFree.2.1,
    Utf8.upToNul_of_free otherFree.2.2] at same
  obtain ⟨name, id, emulator, ownerName, counts, status⟩ := same
  rw [told, told, name, id, emulator, ownerName, counts, GameStatus.code_inj status]

theorem User.toldOfPlayer_of_row {one other : User} (free : one.NulFree)
    (otherFree : other.NulFree) (same : one.playerRow = other.playerRow) :
    one.toldOfPlayer = other.toldOfPlayer := by
  simp only [playerRow, PlayerRow.mk.injEq, Utf8.upToNul_of_free free,
    Utf8.upToNul_of_free otherFree] at same
  obtain ⟨name, ping, id, connectionType⟩ := same
  rw [toldOfPlayer, toldOfPlayer, name, ping, id, connectionType]

/-- Lists that one map does not tell apart are not told apart by another one that follows
from it. -/
theorem map_eq_of_map_eq {Entry Row Told : Type} {row : Entry → Row} {told : Entry → Told}
    {list other : List Entry}
    (follows : ∀ one ∈ list, ∀ another ∈ other, row one = row another → told one = told another)
    (same : list.map row = other.map row) : list.map told = other.map told := by
  induction list generalizing other with
  | nil =>
      rw [List.map_nil, eq_comm, List.map_eq_nil_iff] at same
      rw [same]
  | cons first rest inductionHypothesis =>
      cases other with
      | nil => cases same
      | cons otherFirst otherRest =>
          obtain ⟨firstSame, restSame⟩ := List.cons.inj same
          rw [List.map_cons, List.map_cons,
            follows _ List.mem_cons_self _ List.mem_cons_self firstSame,
            inductionHypothesis (fun one member another otherMember =>
              follows one (List.mem_cons_of_mem _ member) another
                (List.mem_cons_of_mem _ otherMember)) restSame]

namespace Body

variable {users otherUsers : List User} {games otherGames : List GameSummary}

/-- Two bodies are the same only if their lists are the same, entry by entry, as far as a
body tells them. -/
theorem serverStatus_inj (fewUsers : users.length < UInt32.size)
    (fewGames : games.length < UInt32.size) (fewOtherUsers : otherUsers.length < UInt32.size)
    (fewOtherGames : otherGames.length < UInt32.size)
    (same : serverStatus users games = serverStatus otherUsers otherGames) :
    users.map (·.row) = otherUsers.map (·.row) ∧ games.map (·.row) = otherGames.map (·.row) := by
  have read := read_serverStatus fewUsers fewGames
  rw [same, read_serverStatus fewOtherUsers fewOtherGames] at read
  simp only [Except.ok.injEq, Prod.mk.injEq, ServerRoster.mk.injEq] at read
  exact ⟨read.1.2.2.2.1.symm, read.1.2.2.2.2.symm⟩

theorem playerInformation_inj (few : users.length < UInt32.size)
    (fewOther : otherUsers.length < UInt32.size)
    (same : playerInformation users = playerInformation otherUsers) :
    users.map (·.playerRow) = otherUsers.map (·.playerRow) := by
  have read := read_playerInformation few
  rw [same, read_playerInformation fewOther] at read
  simp only [Except.ok.injEq, Prod.mk.injEq, PlayerRoster.mk.injEq] at read
  exact read.1.2.2.symm

/-- Lists whose lengths fit 32 bits read back from their bodies with nothing left over:
the counts, and each entry in its place with its texts cut at the first NUL.  Where no text
holds a NUL, bodies are the same only if the lists tell the same. -/
theorem roster_bodies (users : List User) (games : List GameSummary)
    (fewUsers : users.length < UInt32.size) (fewGames : games.length < UInt32.size) :
    readServerStatus (serverStatus users games) =
        .ok (⟨"", users.length, games.length, users.map (·.row), games.map (·.row)⟩, []) ∧
      readPlayerInformation (playerInformation users) =
        .ok (⟨"", users.length, users.map (·.playerRow)⟩, []) ∧
      ∀ (otherUsers : List User) (otherGames : List GameSummary),
        otherUsers.length < UInt32.size → otherGames.length < UInt32.size →
        (∀ user ∈ users, user.NulFree) → (∀ user ∈ otherUsers, user.NulFree) →
          (playerInformation users = playerInformation otherUsers →
            users.map (·.toldOfPlayer) = otherUsers.map (·.toldOfPlayer)) ∧
          ((∀ game ∈ games, game.NulFree) → (∀ game ∈ otherGames, game.NulFree) →
            serverStatus users games = serverStatus otherUsers otherGames →
              users.map (·.told) = otherUsers.map (·.told) ∧
                games.map (·.told) = otherGames.map (·.told)) := by
  refine ⟨read_serverStatus fewUsers fewGames, read_playerInformation fewUsers,
    fun otherUsers otherGames fewOtherUsers fewOtherGames free otherFree => ⟨?_, ?_⟩⟩
  · intro same
    refine map_eq_of_map_eq (fun user member other otherMember => ?_)
      (playerInformation_inj fewUsers fewOtherUsers same)
    exact User.toldOfPlayer_of_row (free user member) (otherFree other otherMember)
  · intro freeGames otherFreeGames same
    obtain ⟨sameUsers, sameGames⟩ :=
      serverStatus_inj fewUsers fewGames fewOtherUsers fewOtherGames same
    constructor
    · refine map_eq_of_map_eq (fun user member other otherMember => ?_) sameUsers
      exact User.told_of_row (free user member) (otherFree other otherMember)
    · refine map_eq_of_map_eq (fun game member other otherMember => ?_) sameGames
      exact GameSummary.told_of_row (freeGames game member) (otherFreeGames other otherMember)

/-- Two users whose names take more than one byte a character, and the game of one. -/
def regulars : List User :=
  [{ User.connecting 3 ⟨"10.0.0.1", 6000⟩ "0.83" with name := "Zoë", ping := 20 },
    { User.connecting 65535 ⟨"10.0.0.2", 6000⟩ "0.83" with name := "日本", status := .idle }]

/-- The game that the first of them has created. -/
def tables : List GameSummary := [⟨1, "duel", "MAME", 3, "Zoë", .waiting, 1, 4⟩]

/-- The same users, once they have begun to play. -/
def players : List User := regulars.map ({ · with status := .playing })

/-- A change of status alone changes the body. -/
theorem roster_bodies_regulars :
    regulars.length < UInt32.size ∧ tables.length < UInt32.size ∧
      (∀ user ∈ regulars, user.NulFree) ∧ (∀ game ∈ tables, game.NulFree) ∧
      readServerStatus (serverStatus regulars tables) =
        .ok (⟨"", 2, 1, [⟨"Zoë", 20, 2, 3, 0⟩, ⟨"日本", 0, 1, 65535, 0⟩],
          [⟨"duel", 1, "MAME", "Zoë", "1/4", 0⟩]⟩, []) ∧
      serverStatus regulars tables ≠ serverStatus players tables := by
  have fewUsers : regulars.length < UInt32.size := by decide
  have fewPlayers : players.length < UInt32.size := by decide
  have fewGames : tables.length < UInt32.size := by decide
  have freeUsers : ∀ user ∈ regulars, user.NulFree := by decide
  have freePlayers : ∀ user ∈ players, user.NulFree := List.forall_mem_map.mpr freeUsers
  have freeGames : ∀ game ∈ tables, game.NulFree := by decide
  obtain ⟨reads, -, differ⟩ := roster_bodies regulars tables fewUsers fewGames
  refine ⟨fewUsers, fewGames, freeUsers, freeGames, ?_, fun same => ?_⟩
  · rw [reads]
    decide +kernel
  · have told := ((differ players tables fewPlayers fewGames freeUsers freePlayers).2
      freeGames freeGames same).1
    exact absurd (congrArg (List.map (·.2.2.1)) told) (by decide)

end Body

end Netplay
