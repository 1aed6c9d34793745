/-
Module: Netplay.Proofs.Repeats
Purpose: How a session sends messages again: when it is asked to, by its client or by a
  time-out on the input of its user, and it has not done so for a while; always the newest
  messages, more of them the more often in a row it is asked.
Main exports:
  Session.requests, Session.Entry.asked?, Session.Entry.Resent, Session.Entry.Limited,
  Session.Moderate, Session.hear_cases, Session.conducts_does, Session.Tallies,
  Session.limited_enter, Session.moderate_diary
-/
import Mathlib.Data.List.Induction
import Netplay.Proofs.Diaries
import Netplay.Proofs.Tracking

namespace Netplay.Session

/-! ## Asking for messages again -/

/-- What a datagram that is taken in reads as. -/
def Entry.reading? (entry : Entry) : Option (Except BundleError Bundle) :=
  match entry.act with
  | .hear _ datagram => some (Bundle.parse datagram entry.before.inbox.last)
  | _ => none

/-- What the datagrams taken in read as, oldest first. -/
def readings (diary : List Entry) : List (Except BundleError Bundle) :=
  diary.filterMap (·.reading?)

/-- A datagram has new messages. -/
def bringsNews : Except BundleError Bundle → Bool
  | .ok bundle => !bundle.messages.isEmpty
  | .error _ => false

/-- A datagram can be read and has no new messages: the client asks to hear the last ones
again. -/
def asksAgain : Except BundleError Bundle → Bool
  | .ok bundle => bundle.messages.isEmpty
  | .error _ => false

/-- How often the client has asked to hear messages again since it last had news. -/
def requests (diary : List Entry) : Nat :=
  ((readings diary).reverse.takeWhile (!bringsNews ·)).countP asksAgain

/-- What an entry asks to be sent again, if anything: it is the datagram that asks for the
given time in a row, as far as thirty-two bits can count, or shows a time-out with that
number on the input of one's user. -/
def Entry.asked? (earlier : List Entry) (entry : Entry) : Option Nat :=
  match entry.act with
  | .hear _ _ =>
      if entry.reading?.any asksAgain then some (requests (earlier ++ [entry]) % 2 ^ 32)
      else none
  | .render _ event => event.timeout? entry.before.user
  | .serve _ _ _ | .rest _ _ _ _ => none

/-- Messages are sent again. -/
def Entry.Resent (entry : Entry) : Prop := entry.after.lastResend ≠ entry.before.lastResend

instance (entry : Entry) : Decidable entry.Resent := inferInstanceAs (Decidable (_ ≠ _))

/-- How an entry follows earlier ones. -/
structure Entry.Limited (distance : Nat) (earlier : List Entry) (entry : Entry) : Prop where
  /-- The messages that have been sent have the numbers from zero on, and the newest of
  them are kept. -/
  keeps : entry.before.outbox.Keeps (numbered earlier)
  /-- Messages are sent again exactly if somebody asks for some, there are any, and it is
  long enough after every time before. -/
  resent : entry.Resent ↔ ∃ count, entry.asked? earlier = some count ∧ 0 < count ∧
    numbered earlier ≠ [] ∧ ∀ other ∈ earlier, other.Resent → other.now + distance < entry.now
  /-- It is the newest ones that are sent, newest first and with the numbers they have. -/
  newest : ∀ count, entry.asked? earlier = some count → entry.Resent →
    entry.packets = entry.after.transmit (Bundle.encode
      ⟨(numbered earlier).reverse.take (min (min (3 * count) 5) entry.before.outbox.stored)⟩)
  /-- Otherwise nothing is. -/
  skipped : entry.asked? earlier ≠ none → ¬ entry.Resent → entry.packets = []
  /-- No number is given to what is sent again, and it is kept as before. -/
  unchanged : entry.asked? earlier ≠ none → entry.after.outbox = entry.before.outbox
  /-- All that is sent unasked are new messages. -/
  unasked : entry.asked? earlier = none → entry.packets =
    (firstCopies (numbered earlier) (said entry.before entry.after)).flatMap entry.after.transmit

/-- A diary in which messages are not sent again too often, nor more of them than asked
for. -/
structure Moderate (distance : Nat) (diary : List Entry) : Prop where
  apart : diary.Pairwise fun one other =>
    one.Resent → other.Resent → one.now + distance < other.now
  limited : ∀ earlier entry, earlier ++ [entry] <+: diary → entry.Limited distance earlier

/-! ## Counting requests -/

variable {server : ServerSettings} {session : Session} {earlier : List Entry} {entry : Entry}
  {now : Nat} {act : Act}

theorem readings_append (earlier : List Entry) (entry : Entry) :
    readings (earlier ++ [entry]) = readings earlier ++ entry.reading?.toList := by
  rw [readings, List.filterMap_append, List.filterMap_cons]
  cases entry.reading? with
  | none => rfl
  | some reading => rfl

theorem requests_unread (unread : entry.reading? = none) :
    requests (earlier ++ [entry]) = requests earlier := by
  rw [requests, readings_append, unread, Option.toList_none, List.append_nil]
  rfl

theorem requests_read (reading : Except BundleError Bundle)
    (reads : entry.reading? = some reading) :
    requests (earlier ++ [entry]) =
      if bringsNews reading then 0
      else if asksAgain reading then requests earlier + 1 else requests earlier := by
  rw [requests, readings_append, reads, Option.toList_some, List.reverse_append,
    List.reverse_singleton, List.singleton_append, List.takeWhile_cons]
  cases news : bringsNews reading with
  | true => rfl
  | false =>
      rw [if_pos (by rfl), List.countP_cons, requests]
      split
      · rfl
      · rfl

/-- A datagram that asks for messages again has them sent, and any other one does not. -/
theorem hear_cases (session : Session) (distance now : Nat) (source : Address)
    (datagram : Bytes) :
    (asksAgain (Bundle.parse datagram session.inbox.last) = false ∧
      ∃ inbox : Inbox, session.hear distance now source datagram =
          (session.heard now source inbox, []) ∧
        inbox.retries = if bringsNews (Bundle.parse datagram session.inbox.last) then 0
          else session.inbox.retries) ∨
    asksAgain (Bundle.parse datagram session.inbox.last) = true ∧
      bringsNews (Bundle.parse datagram session.inbox.last) = false ∧
      session.hear distance now source datagram =
        (session.heard now source
          { session.inbox with retries := session.inbox.retries + 1 }).resend distance now
            (session.inbox.retries + 1).toNat := by
  unfold hear Inbox.receive
  cases Bundle.parse datagram session.inbox.last with
  | error error => exact .inl ⟨rfl, session.inbox, rfl, rfl⟩
  | ok bundle =>
      simp only
      by_cases empty : bundle.messages = []
      · have asks : asksAgain (.ok bundle) = true := List.isEmpty_iff.mpr empty
        rw [if_pos empty]
        exact .inr ⟨asks, congrArg (!·) asks, rfl⟩
      · have other : asksAgain (.ok bundle) = false := List.isEmpty_eq_false_iff.mpr empty
        have news : bringsNews (.ok bundle) = true := congrArg (!·) other
        rw [if_neg empty]
        refine .inl ⟨other, _, rfl, ?_⟩
        rw [if_pos news, Inbox.acceptAll_landed, Inbox.landed_retries]

theorem inbox_resend (session : Session) (distance now retry : Nat) :
    (session.resend distance now retry).1.inbox = session.inbox := by
  rw [(session.shows_resend distance now retry).frame]

/-- Datagrams are counted as they come in, whatever is done about them. -/
theorem retries_does (server : ServerSettings)
    (counted : session.inbox.retries = .ofNat (requests earlier)) (now : Nat) (act : Act) :
    (session.does server now act).1.inbox.retries =
      .ofNat (requests (earlier ++ [session.enter server now act])) := by
  cases act with
  | hear source datagram =>
      rw [requests_read (Bundle.parse datagram session.inbox.last) rfl, does]
      rcases session.hear_cases server.maxPing.toNat now source datagram with
        ⟨other, inbox, hears, retries⟩ | ⟨asks, old, hears⟩
      · rw [hears, other]
        refine retries.trans ?_
        rw [counted]
        split
        · rfl
        · rfl
      · rw [hears, inbox_resend, asks, old]
        exact (congrArg (· + 1) counted).trans (UInt32.ofNat_add _ 1).symm
  | serve lobby ticket request =>
      rw [requests_unread rfl, ← counted, does]
      simp only
      rw [(session.keeps_perform _ now ticket request).frame]
  | render lobby event =>
      rw [requests_unread rfl, ← counted, does, (session.shows_render _ now event).frame]
  | rest arrivals events phase stopped =>
      rw [requests_unread rfl, ← counted]
      rfl

/-! ## One act -/

/-- No messages are sent again, since it is too early, since none are wanted or since
there are none. -/
def Barred (session : Session) (distance now count : Nat) : Prop :=
  (∃ last, session.lastResend = some last ∧ now ≤ last + distance) ∨ count = 0 ∨
    session.outbox.recent = []

theorem resend_barred {distance count : Nat} (barred : session.Barred distance now count) :
    session.resend distance now count = (session, []) := by
  unfold resend
  split
  · rfl
  · rename_i late
    have nothing : session.outbox.resend count = none := by
      rw [Outbox.resend_eq_none_iff]
      refine barred.resolve_left ?_
      rintro ⟨last, resent, early⟩
      refine late ?_
      rw [resent, Option.any_some, decide_eq_true_eq]
      omega
    rw [nothing]

theorem resend_free {distance count : Nat} (free : ¬ session.Barred distance now count) :
    session.resend distance now count = ({ session with lastResend := some now },
      session.transmit (session.outbox.newest (Outbox.resendCount count)).encode) := by
  obtain ⟨late, several⟩ := not_or.mp free
  have data := Outbox.resend_eq_some_iff.mpr ⟨several, rfl⟩
  unfold resend
  split
  · rename_i early
    rw [Option.any_eq_true] at early
    obtain ⟨last, resent, early⟩ := early
    rw [decide_eq_true_eq] at early
    exact absurd ⟨last, resent, by omega⟩ late
  · rw [data]

/-- What an act does about messages sent before: it sends only new ones, or it is asked to
send some again. -/
inductive Conducts (distance : Nat) (session : Session) (asked : Option Nat) (entry : Entry) :
    Prop where
  | speaks (unasked : asked = none) (lastResend : entry.after.lastResend = session.lastResend)
      (messages : List (Command × Bytes)) (few : messages.length ≤ Outbox.capacity)
      (outbox : entry.after.outbox = (session.outbox.sendAll messages).2)
      (packets : entry.packets =
        (session.outbox.sendAll messages).1.flatMap entry.after.transmit)
  | repeats (count : Nat) (asks : asked = some count) (heard : Session)
      (outbox : heard.outbox = session.outbox) (lastResend : heard.lastResend = session.lastResend)
      (resends : (entry.after, entry.packets) = heard.resend distance entry.now count)

theorem Conducts.of_speaks {distance : Nat} {asked : Option Nat} (unasked : asked = none)
    (speaks : session.Speaks (entry.after, entry.packets)) :
    Conducts distance session asked entry := by
  obtain ⟨messages, few, outbox, packets, frame⟩ := speaks
  simp only at outbox packets frame
  have transmits : entry.after.transmit = session.transmit := by
    rw [frame]
    rfl
  have lastResend : entry.after.lastResend = session.lastResend := by rw [frame]
  exact .speaks unasked lastResend messages few outbox (transmits ▸ packets)

theorem conducts_hear (counted : session.inbox.retries = .ofNat (requests earlier))
    (source : Address) (datagram : Bytes) :
    Conducts server.maxPing.toNat session
      ((session.enter server now (.hear source datagram)).asked? earlier)
      (session.enter server now (.hear source datagram)) := by
  have asked : (session.enter server now (.hear source datagram)).asked? earlier =
      if asksAgain (Bundle.parse datagram session.inbox.last) then
        some (requests (earlier ++ [session.enter server now (.hear source datagram)]) % 2 ^ 32)
      else none := rfl
  have counts : (session.inbox.retries + 1).toNat = (requests earlier + 1) % 2 ^ 32 := by
    rw [counted, ← UInt32.ofNat_one, ← UInt32.ofNat_add, UInt32.toNat_ofNat']
  rw [asked, requests_read (Bundle.parse datagram session.inbox.last) rfl, enter, does]
  rcases session.hear_cases server.maxPing.toNat now source datagram with
    ⟨other, inbox, hears, retries⟩ | ⟨asks, old, hears⟩
  · rw [hears, other]
    exact .speaks rfl rfl [] (Nat.zero_le _) rfl rfl
  · rw [hears, asks, old, counts]
    exact .repeats _ rfl
      (session.heard now source { session.inbox with retries := session.inbox.retries + 1 })
      rfl rfl rfl

theorem conducts_render (lobby : Lobby) (event : Event) :
    Conducts server.maxPing.toNat session (event.timeout? session.user)
      (session.enter server now (.render lobby event)) := by
  cases asks : event.timeout? session.user with
  | none => exact .of_speaks rfl (session.speaks_render _ _ asks)
  | some count =>
      refine .repeats count rfl session rfl rfl ?_
      unfold Event.timeout? at asks
      split at asks
      · rename_i game late number
        split at asks
        · rename_i own
          cases asks
          exact if_pos own
        · cases asks
      · cases asks

/-- Every act does one of these. -/
theorem conducts_does (server : ServerSettings)
    (counted : session.inbox.retries = .ofNat (requests earlier)) (now : Nat) (act : Act) :
    Conducts server.maxPing.toNat session
      ((session.enter server now act).asked? earlier) (session.enter server now act) := by
  cases act with
  | hear source datagram => exact conducts_hear counted source datagram
  | serve lobby ticket request => exact .of_speaks rfl (session.speaks_perform _ _ _ _)
  | render lobby event => exact conducts_render lobby event
  | rest arrivals events phase stopped => exact .speaks rfl rfl [] (Nat.zero_le _) rfl rfl

/-! ## Diaries -/

/-- What a session remembers of its diary. -/
structure Tallies (earlier : List Entry) (session : Session) : Prop where
  keeps : session.outbox.Keeps (numbered earlier)
  counted : session.inbox.retries = .ofNat (requests earlier)
  /-- The last time that messages were sent again is not before any other one. -/
  newest : ∀ entry ∈ earlier, entry.Resent →
    ∃ last, session.lastResend = some last ∧ entry.now ≤ last
  attained : ∀ last, session.lastResend = some last →
    ∃ entry ∈ earlier, entry.Resent ∧ entry.now = last

namespace Tallies

theorem begin (user : UserId) (port : Port) (host : String) (now : Nat) :
    Tallies [] (.begin user port host now) where
  keeps := .empty
  counted := rfl
  newest := fun _ member => by cases member
  attained := fun _ resent => by cases resent

variable {distance count : Nat}

/-- Whether messages are sent again can be told from the diary. -/
theorem free_iff (tallies : Tallies earlier session) :
    ¬ session.Barred distance now count ↔ 0 < count ∧ numbered earlier ≠ [] ∧
      ∀ other ∈ earlier, other.Resent → other.now + distance < now := by
  have several : session.outbox.recent = [] ↔ numbered earlier = [] := by
    rw [tallies.keeps.recent, List.take_eq_nil_iff, List.reverse_eq_nil_iff]
    exact or_iff_right (by decide)
  unfold Barred
  rw [not_or, not_or, several, Nat.pos_iff_ne_zero]
  constructor
  · rintro ⟨late, wanted, some⟩
    refine ⟨wanted, some, fun other member resent => ?_⟩
    obtain ⟨last, lastResend, before⟩ := tallies.newest other member resent
    by_contra early
    exact late ⟨last, lastResend, by omega⟩
  · rintro ⟨wanted, some, late⟩
    refine ⟨?_, wanted, some⟩
    rintro ⟨last, lastResend, early⟩
    obtain ⟨other, member, resent, time⟩ := tallies.attained last lastResend
    have apart := late other member resent
    omega

/-- What goes out when messages are sent again. -/
theorem newest_eq (tallies : Tallies earlier session) (count : Nat) :
    session.outbox.newest (Outbox.resendCount count) =
      ⟨(numbered earlier).reverse.take (min (min (3 * count) 5) session.outbox.stored)⟩ := by
  rw [Outbox.newest, tallies.keeps.stored, tallies.keeps.recent, List.take_take,
    List.take_eq_take_iff.mpr]
  rw [List.length_reverse, Outbox.resendCount]
  unfold Outbox.capacity
  omega

/-- An act in which nothing is sent again. -/
theorem quiet (tallies : Tallies earlier entry.before) (quiet : ¬ entry.Resent)
    (keeps : entry.after.outbox.Keeps (numbered (earlier ++ [entry])))
    (counted : entry.after.inbox.retries = .ofNat (requests (earlier ++ [entry]))) :
    Tallies (earlier ++ [entry]) entry.after := by
  have same : entry.after.lastResend = entry.before.lastResend := not_not.mp quiet
  refine ⟨keeps, counted, fun other member resent => ?_, fun last resent => ?_⟩
  · obtain old | new := List.mem_append.mp member
    · rw [same]
      exact tallies.newest other old resent
    · rw [List.mem_singleton.mp new] at resent
      exact absurd resent quiet
  · obtain ⟨other, member, again, time⟩ := tallies.attained last (same ▸ resent)
    exact ⟨other, List.mem_append_left _ member, again, time⟩

/-- An act in which messages are sent again. -/
theorem again (resent : entry.Resent) (newest : entry.after.lastResend = some entry.now)
    (late : ∀ other ∈ earlier, other.Resent → other.now + distance < entry.now)
    (keeps : entry.after.outbox.Keeps (numbered (earlier ++ [entry])))
    (counted : entry.after.inbox.retries = .ofNat (requests (earlier ++ [entry]))) :
    Tallies (earlier ++ [entry]) entry.after := by
  refine ⟨keeps, counted, fun other member again => ⟨entry.now, newest, ?_⟩, fun last again => ?_⟩
  · obtain old | new := List.mem_append.mp member
    · have apart := late other old again
      omega
    · rw [List.mem_singleton.mp new]
  · rw [newest] at again
    exact ⟨entry, List.mem_append_right _ (List.mem_singleton_self entry), resent,
      Option.some.inj again⟩

end Tallies

/-! ## One entry after the other -/

variable {distance : Nat}

theorem numbered_same (same : entry.after.outbox = entry.before.outbox) :
    numbered (earlier ++ [entry]) = numbered earlier := by
  rw [numbered_append, said_nothing same, List.append_nil]

/-- An act that sends new messages only. -/
theorem limited_unasked (tallies : Tallies earlier entry.before)
    (unasked : entry.asked? earlier = none) (quiet : ¬ entry.Resent)
    {messages : List (Command × Bytes)} (few : messages.length ≤ Outbox.capacity)
    (outbox : entry.after.outbox = (entry.before.outbox.sendAll messages).2)
    (packets : entry.packets =
      (entry.before.outbox.sendAll messages).1.flatMap entry.after.transmit) :
    entry.Limited distance earlier ∧
      entry.after.outbox.Keeps (numbered (earlier ++ [entry])) := by
  obtain ⟨more, length, keeps, copies⟩ := tallies.keeps.sendAll messages
  rw [← outbox] at keeps
  have said := tallies.keeps.said keeps (length ▸ few)
  refine ⟨⟨tallies.keeps, iff_of_false quiet ?_, fun _ _ resent => absurd resent quiet,
    fun asked => absurd unasked asked, fun asked => absurd unasked asked, fun _ => ?_⟩, ?_⟩
  · rintro ⟨count, asked, -⟩
    rw [unasked] at asked
    cases asked
  · rw [packets, copies, said]
  · rw [numbered_append, said]
    exact keeps

/-- An act that is to send messages again. -/
theorem limited_asked (tallies : Tallies earlier entry.before) {count : Nat}
    (asks : entry.asked? earlier = some count) {heard : Session}
    (outbox : heard.outbox = entry.before.outbox)
    (lastResend : heard.lastResend = entry.before.lastResend)
    (resends : (entry.after, entry.packets) = heard.resend distance entry.now count)
    (counted : entry.after.inbox.retries = .ofNat (requests (earlier ++ [entry]))) :
    entry.Limited distance earlier ∧ Tallies (earlier ++ [entry]) entry.after := by
  have same : heard.Barred distance entry.now count ↔
      entry.before.Barred distance entry.now count := by
    rw [Barred, Barred, outbox, lastResend]
  have asked : entry.asked? earlier ≠ none := by
    rw [asks]
    exact Option.some_ne_none count
  -- The session looks at the last time only; by its memory that is the latest one of all.
  by_cases barred : heard.Barred distance entry.now count
  · rw [resend_barred barred, Prod.mk.injEq] at resends
    obtain ⟨later, packets⟩ := resends
    have quiet : ¬ entry.Resent := not_not_intro (by rw [later, lastResend])
    have unchanged : entry.after.outbox = entry.before.outbox := by rw [later, outbox]
    refine ⟨⟨tallies.keeps, iff_of_false quiet ?_, fun _ _ resent => absurd resent quiet,
      fun _ _ => packets, fun _ => unchanged, fun unasked => absurd unasked asked⟩,
      tallies.quiet quiet ?_ counted⟩
    · rintro ⟨wanted, sames, free⟩
      rw [asks] at sames
      cases sames
      exact tallies.free_iff.mpr free (same.mp barred)
    · rw [unchanged, numbered_same unchanged]
      exact tallies.keeps
  · rw [resend_free barred, Prod.mk.injEq] at resends
    obtain ⟨later, packets⟩ := resends
    have free := tallies.free_iff.mp (mt same.mpr barred)
    have unchanged : entry.after.outbox = entry.before.outbox := by rw [later, outbox]
    have newest : entry.after.lastResend = some entry.now := by rw [later]
    have resent : entry.Resent := by
      rw [Entry.Resent, newest, ← lastResend]
      exact fun last => barred (.inl ⟨entry.now, last.symm, Nat.le_add_right _ _⟩)
    have transmits : heard.transmit = entry.after.transmit := by
      rw [later]
      rfl
    refine ⟨⟨tallies.keeps, iff_of_true resent ⟨count, asks, free⟩, fun wanted sames _ => ?_,
      fun _ quiet => absurd resent quiet, fun _ => unchanged,
      fun unasked => absurd unasked asked⟩, .again resent newest free.2.2 ?_ counted⟩
    · rw [asks] at sames
      cases sames
      rw [packets, outbox, tallies.newest_eq, transmits]
    · rw [unchanged, numbered_same unchanged]
      exact tallies.keeps

/-- Whatever a session does, the entry for it is as it should be, and what the session
remembers of its diary is true again. -/
theorem limited_enter (server : ServerSettings) (tallies : Tallies earlier session) (now : Nat)
    (act : Act) :
    (session.enter server now act).Limited server.maxPing.toNat earlier ∧
      Tallies (earlier ++ [session.enter server now act])
        (session.enter server now act).after := by
  have counted := retries_does server tallies.counted now act
  cases conducts_does server tallies.counted now act with
  | speaks unasked lastResend messages few outbox packets =>
      have quiet : ¬ (session.enter server now act).Resent := not_not_intro lastResend
      obtain ⟨limited, keeps⟩ := limited_unasked tallies unasked quiet few outbox packets
      exact ⟨limited, tallies.quiet quiet keeps counted⟩
  | repeats count asks heard outbox lastResend resends =>
      exact limited_asked tallies asks outbox lastResend resends counted

/-- Whatever a session does, and whenever, it sends messages again in moderation. -/
theorem moderate_diary (user : UserId) (port : Port) (host : String) (began : Nat)
    (acts : List (Nat × Act)) :
    Moderate server.maxPing.toNat ((begin user port host began).diary server acts) ∧
      Tallies ((begin user port host began).diary server acts)
        ((begin user port host began).after server acts) := by
  -- On the acts, the last one taken off: what the session remembers of its diary so far
  -- decides about the next entry.
  induction acts using List.reverseRecOn with
  | nil =>
      refine ⟨⟨.nil, fun earlier entry first => ?_⟩, .begin user port host began⟩
      exact absurd (List.prefix_nil.mp first)
        (List.append_ne_nil_of_right_ne_nil earlier (List.cons_ne_nil entry []))
  | append_singleton acts act inductionHypothesis =>
      obtain ⟨⟨apart, limited⟩, tallies⟩ := inductionHypothesis
      obtain ⟨newest, remembers⟩ := limited_enter server tallies act.1 act.2
      rw [diary_append, after_append]
      refine ⟨⟨?_, fun earlier entry first => ?_⟩, remembers⟩
      · refine List.pairwise_append.mpr ⟨apart, List.pairwise_singleton .., ?_⟩
        intro one before other last resent again
        rw [List.mem_singleton.mp last] at again ⊢
        obtain ⟨-, -, -, -, late⟩ := newest.resent.mp again
        exact late one before resent
      · obtain last | old := List.prefix_concat_iff.mp first
        · obtain ⟨rfl, same⟩ := List.append_inj' last rfl
          rw [List.singleton_inj.mp same]
          exact newest
        · exact limited earlier entry old

end Netplay.Session
