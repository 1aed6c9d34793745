/-
Module: Netplay.Proofs.Wiring
Purpose: Which actions and renderers make a router and what is wrong with the others, by
  the first fault there is; and what a router finds once it is made.
Main exports:
  Router.Placed, Router.Offends, Router.Offends.fault, Router.Repeats, Router.absent,
  Router.Wired, Router.Refused, Router.wired_or_refused, Router.gameRenderer?_eq,
  Router.Routes, Router.Wired.routes, Router.wiring
-/
import Netplay.Proofs.KeyedLists
import Netplay.Router

namespace Netplay.Router

/-! ## Actions -/

/-- Each action has a place of its own in the table. -/
structure Placed (actions : List Action) : Prop where
  inside : ∀ action ∈ actions, action.code.toNat < 25
  apart : (actions.map (·.code)).Nodup

variable {actions earlier later : List Action} {action : Action}
  {error : RouterError}

theorem Placed.nil : Placed [] := ⟨List.forall_mem_nil _, List.nodup_nil⟩

theorem placed_append : Placed (earlier ++ later) ↔
    Placed earlier ∧ Placed later ∧ ∀ one ∈ earlier, ∀ two ∈ later, one.code ≠ two.code := by
  constructor
  · rintro ⟨inside, apart⟩
    rw [List.forall_mem_append] at inside
    rw [List.map_append, List.nodup_append] at apart
    obtain ⟨first, second, between⟩ := apart
    exact ⟨⟨inside.1, first⟩, ⟨inside.2, second⟩, fun one member two other =>
      between _ (List.mem_map_of_mem member) _ (List.mem_map_of_mem other)⟩
  · rintro ⟨first, second, between⟩
    refine ⟨List.forall_mem_append.mpr ⟨first.inside, second.inside⟩, ?_⟩
    rw [List.map_append, List.nodup_append]
    refine ⟨first.apart, second.apart, fun one member two other => ?_⟩
    obtain ⟨action, inFirst, rfl⟩ := List.mem_map.mp member
    obtain ⟨next, inSecond, rfl⟩ := List.mem_map.mp other
    exact between action inFirst next inSecond

theorem placed_singleton : Placed [action] ↔ action.code.toNat < 25 :=
  ⟨fun placed => placed.inside action List.mem_cons_self,
    fun inside => ⟨List.forall_mem_singleton.mpr inside, List.nodup_singleton _⟩⟩

/-- The first action that cannot have a place of its own, and the fault that it is: its
number is past the table, or an earlier action has it. -/
inductive Offends (actions : List Action) : RouterError → Prop where
  | outOfRange {earlier later : List Action} {action : Action}
      (split : actions = earlier ++ action :: later) (placed : Placed earlier)
      (beyond : 25 ≤ action.code.toNat) :
      Offends actions (.outOfRange action.code action.name)
  | duplicate {earlier later : List Action} {existing action : Action}
      (split : actions = earlier ++ action :: later) (placed : Placed earlier)
      (inside : action.code.toNat < 25) (registered : existing ∈ earlier)
      (same : existing.code = action.code) :
      Offends actions (.duplicateAction action.code existing.name action.name)

/-- Actions that have places of their own are passed over. -/
theorem actionFault_append (accepted : List Action) (placed : Placed (accepted ++ earlier))
    (later : List Action) :
    actionFault accepted (earlier ++ later) = actionFault (accepted ++ earlier) later := by
  induction earlier generalizing accepted with
  | nil => rw [List.nil_append, List.append_nil]
  | cons action rest inductionHypothesis =>
      rw [List.append_cons] at placed ⊢
      obtain ⟨-, inside, free⟩ := placed_append.mp (placed_append.mp placed).1
      have room : ¬ tableSize ≤ action.code.toNat :=
        Nat.not_le_of_lt (placed_singleton.mp inside)
      have unused : accepted.find? (·.code = action.code) = none :=
        List.find?_eq_none.mpr fun existing registered => by
          simpa using free existing registered action List.mem_cons_self
      rw [List.cons_append, actionFault, if_neg room, unused]
      exact inductionHypothesis _ placed

theorem actionFault_placed (placed : Placed actions) : actionFault [] actions = none := by
  have passed := actionFault_append [] placed []
  rwa [List.append_nil] at passed

/-- The scan stops at the first offending action. -/
theorem Offends.fault (offends : Offends actions error) : actionFault [] actions = some error := by
  cases offends with
  | outOfRange split placed beyond =>
      rw [split, actionFault_append [] placed, List.nil_append, actionFault]
      exact if_pos beyond
  | duplicate split placed inside registered same =>
      have found := (find?_key_eq_some_iff placed.apart).mpr ⟨registered, same⟩
      rw [split, actionFault_append [] placed, List.nil_append, actionFault,
        if_neg (show ¬ tableSize ≤ _ from Nat.not_le_of_lt inside), found]

/-- Actions have places of their own, or there is a first one that has not. -/
theorem exists_offends (fails : ¬ Placed actions) : ∃ error, Offends actions error := by
  obtain ⟨earlier, action, later, split, placed, fails⟩ := exists_first Placed .nil fails
  by_cases inside : action.code.toNat < 25
  · rw [placed_append, placed_singleton, and_iff_right placed, and_iff_right inside] at fails
    push Not at fails
    obtain ⟨existing, registered, same, new, equal⟩ := fails
    rw [List.mem_singleton.mp new] at equal
    exact ⟨_, .duplicate split placed inside registered equal⟩
  · exact ⟨_, .outOfRange split placed (Nat.le_of_not_lt inside)⟩

/-! ## Renderers -/

section Renderers

variable {κ : Type} [DecidableEq κ] {renderers passed rest : List (Renderer κ)} {kind : κ}

/-- The first renderer of a kind that an earlier one has is of this kind. -/
def Repeats (renderers : List (Renderer κ)) (kind : κ) : Prop :=
  ∃ earlier renderer later, renderers = earlier ++ renderer :: later ∧
    (earlier.map (·.kind)).Nodup ∧ renderer.kind ∈ earlier.map (·.kind) ∧ renderer.kind = kind

/-- Renderers of different kinds are passed over. -/
theorem go_append {seen : List κ} (distinct : (passed.map (·.kind)).Nodup)
    (fresh : ∀ renderer ∈ passed, renderer.kind ∉ seen) (rest : List (Renderer κ)) :
    duplicateKind.go seen (passed ++ rest) =
      duplicateKind.go ((passed.map (·.kind)).reverse ++ seen) rest := by
  induction passed generalizing seen with
  | nil => rfl
  | cons renderer more inductionHypothesis =>
      obtain ⟨absent, distinct⟩ := List.nodup_cons.mp distinct
      obtain ⟨new, fresh⟩ := List.forall_mem_cons.mp fresh
      rw [List.cons_append, duplicateKind.go, if_neg new, inductionHypothesis distinct,
        List.map_cons, List.reverse_cons, List.append_assoc, List.singleton_append]
      intro other member again
      rcases List.mem_cons.mp again with same | seen
      · exact absent (List.mem_map.mpr ⟨other, member, same⟩)
      · exact fresh other member seen

theorem duplicateKind_append (distinct : (passed.map (·.kind)).Nodup) (rest : List (Renderer κ)) :
    duplicateKind (passed ++ rest) = duplicateKind.go (passed.map (·.kind)).reverse rest := by
  rw [duplicateKind, go_append distinct (fun _ _ => List.not_mem_nil), List.append_nil]

theorem duplicateKind_distinct (distinct : (renderers.map (·.kind)).Nodup) :
    duplicateKind renderers = none := by
  have passed := duplicateKind_append distinct []
  rwa [List.append_nil] at passed

theorem Repeats.found (repeats : Repeats renderers kind) : duplicateKind renderers = some kind := by
  obtain ⟨earlier, renderer, later, rfl, distinct, again, rfl⟩ := repeats
  rw [duplicateKind_append distinct, duplicateKind.go, if_pos (List.mem_reverse.mpr again)]

omit [DecidableEq κ] in
theorem exists_repeats (fails : ¬ (renderers.map (·.kind)).Nodup) :
    ∃ kind, Repeats renderers kind := by
  obtain ⟨earlier, renderer, later, split, distinct, fails⟩ :=
    exists_first (fun list : List (Renderer κ) => (list.map (·.kind)).Nodup)
      List.nodup_nil fails
  rw [List.map_append, List.map_singleton, (List.perm_append_singleton ..).nodup_iff,
    List.nodup_cons, and_iff_left distinct, not_not] at fails
  exact ⟨renderer.kind, earlier, renderer, later, split, distinct, fails, rfl⟩

/-- The walk to a renderer takes one look at a time. -/
theorem route?_succ (fallback : κ → Option κ) (steps : Nat) (kind : κ) :
    route? renderers fallback (steps + 1) kind =
      (renderers.find? (·.kind = kind)).or
        ((fallback kind).bind (route? renderers fallback steps)) := by
  rw [route?]
  cases renderers.find? (·.kind = kind) with
  | none => rfl
  | some renderer => rfl

/-- A kind without fallback has its own renderer or none. -/
theorem route?_alone (steps : Nat) (kind : κ) :
    route? renderers (fun _ => none) (steps + 1) kind = renderers.find? (·.kind = kind) := by
  rw [route?_succ, Option.bind_none, Option.or_none]

end Renderers

/-! ## Building -/

variable {server : List (Renderer ServerEvent.Kind)} {game : List (Renderer GameEvent.Kind)}
  {user : List (Renderer UserEvent.Kind)} {router : Router}

/-- The required message types that no action answers, in the order of the table. -/
def absent (actions : List Action) : List Command :=
  Command.required.filter fun command => command.code ∉ actions.map (·.code)

/-- These actions and renderers make a router. -/
structure Wired (actions : List Action) (server : List (Renderer ServerEvent.Kind))
    (game : List (Renderer GameEvent.Kind)) (user : List (Renderer UserEvent.Kind)) : Prop where
  placed : Placed actions
  /-- Every message type that clients send is answered. -/
  complete : ∀ command ∈ Command.required, ∃ action ∈ actions, action.code = command.code
  server : (server.map (·.kind)).Nodup
  game : (game.map (·.kind)).Nodup
  user : (user.map (·.kind)).Nodup

/-- These actions and renderers make no router, for this reason.  An action comes before a
message type that is not answered, that before a renderer, and renderers of server events
come before those of game events and these before those of user events. -/
inductive Refused (actions : List Action) (server : List (Renderer ServerEvent.Kind))
    (game : List (Renderer GameEvent.Kind)) (user : List (Renderer UserEvent.Kind)) :
    RouterError → Prop where
  | action {error : RouterError} (offends : Offends actions error) :
      Refused actions server game user error
  | missing (placed : Placed actions) (some : absent actions ≠ []) :
      Refused actions server game user (.missingActions (absent actions))
  | server {kind : ServerEvent.Kind} (placed : Placed actions) (complete : absent actions = [])
      (repeats : Repeats server kind) :
      Refused actions server game user (.duplicateRenderer "server" kind.name)
  | game {kind : GameEvent.Kind} (placed : Placed actions) (complete : absent actions = [])
      (distinct : (server.map (·.kind)).Nodup) (repeats : Repeats game kind) :
      Refused actions server game user (.duplicateRenderer "game" kind.name)
  | user {kind : UserEvent.Kind} (placed : Placed actions) (complete : absent actions = [])
      (distinct : (server.map (·.kind)).Nodup) (alsoDistinct : (game.map (·.kind)).Nodup)
      (repeats : Repeats user kind) :
      Refused actions server game user (.duplicateRenderer "user" kind.name)

theorem missing_eq (actions : List Action) : missing actions = absent actions := by
  refine List.filter_congr fun command _ => ?_
  rw [Bool.eq_iff_iff, decide_eq_true_iff, Bool.not_eq_true', List.any_eq_false, List.mem_map]
  simp only [decide_eq_true_eq, not_exists, not_and]

theorem absent_eq_nil_iff : absent actions = [] ↔
    ∀ command ∈ Command.required, ∃ action ∈ actions, action.code = command.code := by
  simp only [absent, List.filter_eq_nil_iff, decide_eq_true_eq, not_not, List.mem_map]

/-- With its actions in order, a router depends on its renderers. -/
theorem build_placed (placed : Placed actions) (complete : absent actions = []) :
    build actions server game user =
      match duplicateKind server, duplicateKind game, duplicateKind user with
      | some kind, _, _ => .error (.duplicateRenderer "server" kind.name)
      | none, some kind, _ => .error (.duplicateRenderer "game" kind.name)
      | none, none, some kind => .error (.duplicateRenderer "user" kind.name)
      | none, none, none => .ok ⟨actions, server, game, user⟩ := by
  rw [build, actionFault_placed placed, missing_eq, complete]
  rfl

theorem Wired.build (wired : Wired actions server game user) :
    Router.build actions server game user = .ok ⟨actions, server, game, user⟩ := by
  rw [build_placed wired.placed (absent_eq_nil_iff.mpr wired.complete),
    duplicateKind_distinct wired.server, duplicateKind_distinct wired.game,
    duplicateKind_distinct wired.user]

theorem Refused.build (refused : Refused actions server game user error) :
    Router.build actions server game user = .error error := by
  cases refused with
  | action offends => rw [Router.build, offends.fault]
  | missing placed some =>
      rw [Router.build, actionFault_placed placed, missing_eq]
      exact if_pos some
  | server placed complete repeats => rw [build_placed placed complete, repeats.found]
  | game placed complete distinct repeats =>
      rw [build_placed placed complete, duplicateKind_distinct distinct, repeats.found]
  | user placed complete distinct alsoDistinct repeats =>
      rw [build_placed placed complete, duplicateKind_distinct distinct,
        duplicateKind_distinct alsoDistinct, repeats.found]

/-- There is a router, or a first fault. -/
theorem wired_or_refused (actions : List Action) (server : List (Renderer ServerEvent.Kind))
    (game : List (Renderer GameEvent.Kind)) (user : List (Renderer UserEvent.Kind)) :
    Wired actions server game user ∨ ∃ error, Refused actions server game user error := by
  by_cases placed : Placed actions
  swap
  · obtain ⟨error, offends⟩ := exists_offends placed
    exact .inr ⟨error, .action offends⟩
  by_cases complete : absent actions = []
  swap
  · exact .inr ⟨_, .missing placed complete⟩
  by_cases distinct : (server.map (·.kind)).Nodup
  swap
  · obtain ⟨kind, repeats⟩ := exists_repeats distinct
    exact .inr ⟨_, .server placed complete repeats⟩
  by_cases alsoDistinct : (game.map (·.kind)).Nodup
  swap
  · obtain ⟨kind, repeats⟩ := exists_repeats alsoDistinct
    exact .inr ⟨_, .game placed complete distinct repeats⟩
  by_cases all : (user.map (·.kind)).Nodup
  swap
  · obtain ⟨kind, repeats⟩ := exists_repeats all
    exact .inr ⟨_, .user placed complete distinct alsoDistinct repeats⟩
  exact .inl ⟨placed, absent_eq_nil_iff.mp complete, distinct, alsoDistinct, all⟩

theorem build_eq_ok_iff : build actions server game user = .ok router ↔
    Wired actions server game user ∧ router = ⟨actions, server, game, user⟩ := by
  rcases wired_or_refused actions server game user with wired | ⟨error, refused⟩
  · rw [wired.build, and_iff_right wired, Except.ok.injEq, eq_comm]
  · rw [refused.build]
    refine iff_of_false (fun same => by cases same) fun made => ?_
    have built := made.1.build
    rw [refused.build] at built
    cases built

theorem build_eq_error_iff : build actions server game user = .error error ↔
    Refused actions server game user error := by
  refine ⟨fun denied => ?_, Refused.build⟩
  rcases wired_or_refused actions server game user with wired | ⟨other, refused⟩
  · rw [wired.build] at denied
    cases denied
  · rw [refused.build] at denied
    exact Except.error.inj denied ▸ refused

/-! ## Looking up -/

theorem fallback_eq_some_iff {kind next : GameEvent.Kind} : fallback kind = some next ↔
    (kind = .timeout ∨ kind = .playerDesynch ∨ kind = .desynch) ∧ next = .info := by
  cases kind <;> simp [fallback, eq_comm]

/-- The bound on the walk never matters: a kind that has no renderer of its own is shown by
that of the kind it falls back to. -/
theorem gameRenderer?_eq (router : Router) (kind : GameEvent.Kind) :
    router.gameRenderer? kind = (router.game.find? (·.kind = kind)).or
      ((fallback kind).bind fun next => router.game.find? (·.kind = next)) := by
  have once (next : GameEvent.Kind) (reached : fallback kind = some next) :
      fallback next = none := by
    rw [(fallback_eq_some_iff.mp reached).2]
    rfl
  rw [gameRenderer?, route?_succ]
  cases reached : fallback kind with
  | none => rfl
  | some next =>
      rw [Option.bind_some, Option.bind_some]
      cases registered : router.game with
      | nil => rfl
      | cons renderer rest =>
          rw [List.length_cons, route?_succ, once next reached, Option.bind_none, Option.or_none]

/-- What a router finds: the action of each number and the renderer of each kind, where
there is one.  A time-out and a loss of synchrony without a renderer of their own are shown
as notices. -/
structure Routes (actions : List Action) (server : List (Renderer ServerEvent.Kind))
    (game : List (Renderer GameEvent.Kind)) (user : List (Renderer UserEvent.Kind))
    (router : Router) : Prop where
  action : ∀ code action,
    router.action? code = some action ↔ action ∈ actions ∧ action.code = code
  server : ∀ kind renderer,
    router.serverRenderer? kind = some renderer ↔ renderer ∈ server ∧ renderer.kind = kind
  game : ∀ kind renderer, router.gameRenderer? kind = some renderer ↔
    renderer ∈ game ∧ (renderer.kind = kind ∨ kind ∉ game.map (·.kind) ∧
      (kind = .timeout ∨ kind = .playerDesynch ∨ kind = .desynch) ∧ renderer.kind = .info)
  user : ∀ kind renderer,
    router.userRenderer? kind = some renderer ↔ renderer ∈ user ∧ renderer.kind = kind

theorem find?_kind_eq_none_iff {κ : Type} [DecidableEq κ] {renderers : List (Renderer κ)}
    {kind : κ} : renderers.find? (·.kind = kind) = none ↔ kind ∉ renderers.map (·.kind) := by
  rw [List.find?_eq_none, List.mem_map]
  simp only [decide_eq_true_eq, not_exists, not_and]

theorem Wired.routes (wired : Wired actions server game user) :
    Routes actions server game user ⟨actions, server, game, user⟩ where
  action _ _ := find?_key_eq_some_iff wired.placed.apart
  server kind renderer := by
    rw [serverRenderer?, route?_alone]
    exact find?_key_eq_some_iff wired.server
  user kind renderer := by
    rw [userRenderer?, route?_alone]
    exact find?_key_eq_some_iff wired.user
  game kind renderer := by
    rw [gameRenderer?_eq, Option.or_eq_some_iff, find?_key_eq_some_iff wired.game,
      find?_kind_eq_none_iff, Option.bind_eq_some_iff]
    simp only [fallback_eq_some_iff, find?_key_eq_some_iff wired.game]
    constructor
    · rintro (⟨member, own⟩ | ⟨none, next, ⟨shown, rfl⟩, member, notice⟩)
      · exact ⟨member, .inl own⟩
      · exact ⟨member, .inr ⟨none, shown, notice⟩⟩
    · rintro ⟨member, own | ⟨none, shown, notice⟩⟩
      · exact .inl ⟨member, own⟩
      · exact .inr ⟨none, .info, ⟨shown, rfl⟩, member, notice⟩

/-- How a router is made.  It is made exactly of actions that have places of their own and
answer all that clients send and of renderers of different kinds; otherwise it is refused
for the first fault there is.  Once made it finds each action by its number and each
renderer by its kind. -/
theorem wiring (actions : List Action) (server : List (Renderer ServerEvent.Kind))
    (game : List (Renderer GameEvent.Kind)) (user : List (Renderer UserEvent.Kind)) :
    ((∃ router, build actions server game user = .ok router) ↔
        Wired actions server game user) ∧
      (∀ error, build actions server game user = .error error ↔
        Refused actions server game user error) ∧
      ∀ router, build actions server game user = .ok router →
        Routes actions server game user router := by
  refine ⟨⟨?_, fun wired => ⟨_, wired.build⟩⟩, fun error => build_eq_error_iff,
    fun router made => ?_⟩
  · rintro ⟨router, made⟩
    exact (build_eq_ok_iff.mp made).1
  · obtain ⟨wired, rfl⟩ := build_eq_ok_iff.mp made
    exact wired.routes

/-- A router that shows only notices shows time-outs as such and nothing else; and of an
action that comes twice and one past the table it is the one met first that is at fault. -/
theorem wiring_noticesOnly :
    (∃ router, build standardActions [] [⟨.info, "GameInfoRenderer"⟩] [] = .ok router ∧
        router.gameRenderer? .timeout = some ⟨.info, "GameInfoRenderer"⟩ ∧
        router.gameRenderer? .allReady = none) ∧
      build [⟨6, "KeepAliveAction"⟩, ⟨6, "ChatAction"⟩, ⟨25, "QuitAction"⟩] [] [] [] =
        .error (.duplicateAction 6 "KeepAliveAction" "ChatAction") := by
  obtain ⟨made, -, found⟩ :=
    wiring standardActions [] [⟨.info, "GameInfoRenderer"⟩] []
  obtain ⟨router, built⟩ := made.mpr
    ⟨⟨by decide, by decide⟩, by decide, by decide, by decide, by decide⟩
  have routes := found router built
  refine ⟨⟨router, built, ?_, ?_⟩, ?_⟩
  · exact (routes.game .timeout _).mpr
      ⟨List.mem_singleton_self _, .inr ⟨by decide, .inl rfl, rfl⟩⟩
  · refine Option.eq_none_iff_forall_ne_some.mpr fun renderer shown => ?_
    obtain ⟨member, own | ⟨-, noticed, -⟩⟩ := (routes.game .allReady renderer).mp shown
    · rw [List.mem_singleton.mp member] at own
      cases own
    · exact absurd noticed (by decide)
  · refine ((wiring [⟨6, "KeepAliveAction"⟩, ⟨6, "ChatAction"⟩, ⟨25, "QuitAction"⟩]
      [] [] []).2.1 _).mpr (.action ?_)
    have split : [(⟨6, "KeepAliveAction"⟩ : Action), ⟨6, "ChatAction"⟩, ⟨25, "QuitAction"⟩] =
        [⟨6, "KeepAliveAction"⟩] ++ ⟨6, "ChatAction"⟩ :: [⟨25, "QuitAction"⟩] := rfl
    exact .duplicate split (placed_singleton.mpr (by decide)) (by decide)
      (List.mem_singleton_self _) rfl

end Netplay.Router
