/-
Module: Netplay.Proofs.Shares
Purpose: Messages of one length, the shares they are cut into, and the order in
  which a merge visits the players.
Main exports:
  share, visits, visits_succ, flatten_drop, flatten_getElem?, take_drop_flatten
-/
import Netplay.Bytes

namespace Netplay

/-! ## Rows of one length -/

section Rows

variable {α : Type} {width : Nat}

/-- The length of rows put end to end. -/
theorem length_flatten_of_width {rows : List (List α)}
    (even : ∀ row ∈ rows, row.length = width) :
    rows.flatten.length = rows.length * width := by
  induction rows with
  | nil => simp
  | cons row rest inductionHypothesis =>
      have rowWidth := even row List.mem_cons_self
      have restEven := inductionHypothesis fun other member =>
        even other (List.mem_cons_of_mem row member)
      rw [List.flatten_cons, List.length_append, rowWidth, restEven,
        List.length_cons, Nat.succ_mul, Nat.add_comm]

/-- Dropping whole rows. -/
theorem flatten_drop {rows : List (List α)}
    (even : ∀ row ∈ rows, row.length = width) (count : Nat) :
    rows.flatten.drop (count * width) = (rows.drop count).flatten := by
  induction count generalizing rows with
  | zero => simp
  | succ count inductionHypothesis =>
      cases rows with
      | nil => simp
      | cons row rest =>
          have rowWidth := even row List.mem_cons_self
          have split : (count + 1) * width = row.length + count * width := by
            rw [rowWidth, Nat.succ_mul, Nat.add_comm]
          rw [List.flatten_cons, split, ← List.drop_drop, List.drop_left,
            List.drop_succ_cons]
          exact inductionHypothesis fun other member =>
            even other (List.mem_cons_of_mem row member)

/-- The entry in a given row and column. -/
theorem flatten_getElem? {rows : List (List α)}
    (even : ∀ row ∈ rows, row.length = width) (index : Nat) {column : Nat}
    (inside : column < width) :
    rows.flatten[index * width + column]? =
      (rows[index]?).bind fun row => row[column]? := by
  have dropped := congrArg (fun list => list[column]?) (flatten_drop even index)
  simp only [List.getElem?_drop] at dropped
  rw [dropped]
  cases place : rows[index]? with
  | none =>
      rw [List.drop_eq_nil_of_le (List.getElem?_eq_none_iff.mp place)]
      rfl
  | some row =>
      obtain ⟨within, rowEq⟩ := List.getElem?_eq_some_iff.mp place
      have rowWidth : row.length = width := even row (rowEq ▸ List.getElem_mem within)
      rw [List.drop_eq_getElem_cons within, rowEq, List.flatten_cons,
        List.getElem?_append_left (rowWidth ▸ inside)]
      rfl

end Rows

/-! ## Shares of a message -/

/-- The share of action `action` in a message whose actions take `size` bytes
each. -/
def share (message : Bytes) (action size : Nat) : Bytes :=
  (message.drop (size * action)).take size

/-- Every action of a message of `actions` actions has a whole share. -/
theorem length_share {message : Bytes} {actions action size : Nat}
    (whole : message.length = actions * size) (inside : action < actions) :
    (share message action size).length = size := by
  have room : size * action + size ≤ actions * size := by
    rw [← Nat.mul_succ, Nat.mul_comm]
    exact Nat.mul_le_mul_right size inside
  simp only [share, List.length_take, List.length_drop, whole]
  omega

/-- The bytes of a share, by their place in the message. -/
theorem getElem?_share (message : Bytes) (action : Nat) {size offset : Nat}
    (inside : offset < size) :
    (share message action size)[offset]? = message[action * size + offset]? := by
  rw [share, List.getElem?_take_of_lt inside, List.getElem?_drop, Nat.mul_comm]

/-- A share lies in the stream of messages behind all earlier messages and
earlier shares. -/
theorem take_drop_flatten {messages : List Bytes} {actions size : Nat}
    (even : ∀ message ∈ messages, message.length = actions * size)
    {index action : Nat} {message : Bytes}
    (place : messages[index]? = some message) (inside : action < actions) :
    (messages.flatten.drop (index * (actions * size) + size * action)).take size =
      share message action size := by
  obtain ⟨within, messageEq⟩ := List.getElem?_eq_some_iff.mp place
  have whole : message.length = actions * size :=
    even message (messageEq ▸ List.getElem_mem within)
  have room : size * action + size ≤ message.length := by
    rw [whole, ← Nat.mul_succ, Nat.mul_comm]
    exact Nat.mul_le_mul_right size inside
  rw [← List.drop_drop, flatten_drop even, List.drop_eq_getElem_cons within,
    messageEq, List.flatten_cons, List.drop_append_of_le_length (by omega),
    List.take_append_of_le_length (by simp only [List.length_drop]; omega)]
  rfl

/-! ## Visits -/

/-- How often a merge over `players` players has visited the one in place
`slot` once it has collected `collected` shares. -/
def visits (players collected slot : Nat) : Nat :=
  collected / players + if slot < collected % players then 1 else 0

/-- Before the first share nobody has been visited. -/
@[simp] theorem visits_zero (players slot : Nat) : visits players 0 slot = 0 := by
  simp [visits]

/-- After whole rounds everybody has been visited once in each. -/
theorem visits_whole {players : Nat} (actions slot : Nat) (some : 0 < players) :
    visits players (actions * players) slot = actions := by
  simp [visits, Nat.mul_div_cancel _ some]

/-- The player about to be visited has been visited once in each round that is
over. -/
theorem visits_slot (players collected : Nat) :
    visits players collected (collected % players) = collected / players := by
  simp [visits]

/-- Each share is one more visit to the player whose turn it is. -/
theorem visits_succ {players slot : Nat} (collected : Nat) (inside : slot < players) :
    visits players (collected + 1) slot =
      visits players collected slot +
        if collected % players = slot then 1 else 0 := by
  have positive : 0 < players := by omega
  have small := Nat.mod_lt collected positive
  have shape := Nat.div_add_mod collected players
  simp only [visits]
  by_cases last : collected % players + 1 = players
  · have next : collected + 1 = players * (collected / players + 1) := by
      rw [Nat.mul_succ]
      omega
    rw [next, Nat.mul_div_cancel_left _ positive, Nat.mul_mod_right,
      if_neg (Nat.not_lt_zero slot)]
    split <;> split <;> omega
  · have next : collected + 1 =
        players * (collected / players) + (collected % players + 1) := by
      omega
    have below : collected % players + 1 < players := by omega
    have quotient : (collected + 1) / players = collected / players := by
      rw [next, Nat.mul_add_div positive, Nat.div_eq_of_lt below, Nat.add_zero]
    have remainder : (collected + 1) % players = collected % players + 1 := by
      rw [next, Nat.mul_add_mod, Nat.mod_eq_of_lt below]
    rw [quotient, remainder]
    split <;> split <;> split <;> omega

end Netplay
