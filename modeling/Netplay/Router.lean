/-
Module: Netplay.Router
Purpose: Which action answers a message type and which renderer shows an event.
Main exports:
  Action, Renderer, RouterError, Router, Router.build, Router.action?,
  Router.route?, Router.standard, Router.describe
-/
import Netplay.Event
import Netplay.Text.Hex
import Netplay.Text.Quoted
import Netplay.Wire.Command

namespace Netplay

/-!
A router is built once, from the actions and renderers registered with it, and
only looked up afterwards.  It is refused when a message type has two actions
or lies outside the table, when a message type that clients send has none, or
when a kind of event has two renderers.
-/

/-- An action, registered under the number of its message type. -/
structure Action where
  code : UInt8
  name : String
deriving Repr, Inhabited, DecidableEq

/-- A renderer, registered for one kind of event. -/
structure Renderer (κ : Type) where
  kind : κ
  name : String
deriving Repr, Inhabited, DecidableEq

/-- Why a router was refused. -/
inductive RouterError where
  | outOfRange (code : UInt8) (action : String)
  | duplicateAction (code : UInt8) (existing duplicate : String)
  | missingActions (commands : List Command)
  | duplicateRenderer (scope kind : String)
deriving Repr, Inhabited, DecidableEq

namespace RouterError

/-- The text of a router error. -/
def message : RouterError → String
  | outOfRange code action =>
      "message ID 0x" ++ Text.hexByte code ++ " out of range for " ++ action
  | duplicateAction code existing duplicate =>
      "duplicate action mapping for message ID 0x" ++ Text.hexByte code ++
        ": " ++ existing ++ " and " ++ duplicate
  | missingActions commands =>
      "missing handlers for message IDs: " ++
        ", ".intercalate
          (commands.map fun command =>
            "0x" ++ Text.hexByte command.code ++ " (" ++ command.name ++ ")")
  | duplicateRenderer scope kind =>
      "duplicate " ++ scope ++ " event renderer for " ++ kind

end RouterError

/-- The registered actions and renderers. -/
structure Router where
  actions : List Action
  server : List (Renderer ServerEvent.Kind)
  game : List (Renderer GameEvent.Kind)
  user : List (Renderer UserEvent.Kind)
deriving Repr, Inhabited, DecidableEq

namespace Router

/-- The size of the action table; numbers from here on are never routed. -/
def tableSize : Nat := 25

/-- The first thing wrong with `rest`, given the actions accepted before it. -/
def actionFault (accepted : List Action) : List Action → Option RouterError
  | [] => none
  | action :: rest =>
      if tableSize ≤ action.code.toNat then
        some (.outOfRange action.code action.name)
      else
        match accepted.find? (·.code = action.code) with
        | some existing =>
            some (.duplicateAction action.code existing.name action.name)
        | none => actionFault (accepted ++ [action]) rest

/-- The required message types that have no action. -/
def missing (actions : List Action) : List Command :=
  Command.required.filter fun command =>
    !actions.any (·.code = command.code)

/-- The first kind that an earlier renderer already has. -/
def duplicateKind {κ : Type} [DecidableEq κ] : List (Renderer κ) → Option κ
  | renderers => go [] renderers
where
  /-- Scan the renderers after those whose kinds are `seen`. -/
  go (seen : List κ) : List (Renderer κ) → Option κ
    | [] => none
    | renderer :: rest =>
        if renderer.kind ∈ seen then some renderer.kind
        else go (renderer.kind :: seen) rest

/-- Build a router.  Of several faults the one reported is the first faulty
action, else the missing message types, else the first renderer given twice
for the server, for games, for users. -/
def build (actions : List Action) (server : List (Renderer ServerEvent.Kind))
    (game : List (Renderer GameEvent.Kind))
    (user : List (Renderer UserEvent.Kind)) : Except RouterError Router :=
  match actionFault [] actions with
  | some error => .error error
  | none =>
      if missing actions ≠ [] then .error (.missingActions (missing actions))
      else
        match duplicateKind server, duplicateKind game, duplicateKind user with
        | some kind, _, _ => .error (.duplicateRenderer "server" kind.name)
        | none, some kind, _ => .error (.duplicateRenderer "game" kind.name)
        | none, none, some kind => .error (.duplicateRenderer "user" kind.name)
        | none, none, none => .ok ⟨actions, server, game, user⟩

/-- The action for a message type. -/
def action? (router : Router) (code : UInt8) : Option Action :=
  router.actions.find? (·.code = code)

/-- The kind whose renderer shows a game event that has no renderer of its
own: time-outs and loss of synchrony are shown as game notices. -/
def fallback : GameEvent.Kind → Option GameEvent.Kind
  | .timeout | .playerDesynch | .desynch => some .info
  | _ => none

/-- The renderer of a kind, or of the nearest kind it falls back to within
`steps` look-ups. -/
def route? {κ : Type} [DecidableEq κ] (renderers : List (Renderer κ))
    (fallback : κ → Option κ) : Nat → κ → Option (Renderer κ)
  | 0, _ => none
  | steps + 1, kind =>
      match renderers.find? (·.kind = kind) with
      | some renderer => some renderer
      | none => (fallback kind).bind (route? renderers fallback steps)

/-- The renderer of a kind of server event. -/
def serverRenderer? (router : Router) (kind : ServerEvent.Kind) :
    Option (Renderer ServerEvent.Kind) :=
  route? router.server (fun _ => none) (router.server.length + 1) kind

/-- The renderer of a kind of game event. -/
def gameRenderer? (router : Router) (kind : GameEvent.Kind) :
    Option (Renderer GameEvent.Kind) :=
  route? router.game fallback (router.game.length + 1) kind

/-- The renderer of a kind of user event. -/
def userRenderer? (router : Router) (kind : UserEvent.Kind) :
    Option (Renderer UserEvent.Kind) :=
  route? router.user (fun _ => none) (router.user.length + 1) kind

/-- The actions by ascending message type. -/
def table (router : Router) : List Action :=
  (List.range tableSize).filterMap fun code =>
    router.action? (UInt8.ofNat code)

/-- A description of a router: its actions and how many renderers it has. -/
def describe (router : Router) : String :=
  "ActionRouter \x7b actions: " ++
    Text.quotedList (router.table.map Action.name) ++
    ", server_renderers: " ++ toString router.server.length ++
    ", game_renderers: " ++ toString router.game.length ++
    ", user_renderers: " ++ toString router.user.length ++ " \x7d"

/-- The actions of the relay, one for each message type a client may send. -/
def standardActions : List Action :=
  [⟨Command.userLogin.code, "LoginAction"⟩,
    ⟨Command.clientAck.code, "AckAction"⟩,
    ⟨Command.globalChat.code, "ChatAction"⟩,
    ⟨Command.gameChat.code, "GameChatAction"⟩,
    ⟨Command.keepAlive.code, "KeepAliveAction"⟩,
    ⟨Command.createGame.code, "CreateGameAction"⟩,
    ⟨Command.joinGame.code, "JoinGameAction"⟩,
    ⟨Command.quitGame.code, "QuitGameAction"⟩,
    ⟨Command.userQuit.code, "QuitAction"⟩,
    ⟨Command.startGame.code, "StartGameAction"⟩,
    ⟨Command.readyToPlay.code, "ReadyAction"⟩,
    ⟨Command.kickUser.code, "KickUserAction"⟩,
    ⟨Command.gameData.code, "GameDataAction"⟩,
    ⟨Command.gameCache.code, "CachedGameDataAction"⟩,
    ⟨Command.dropGame.code, "DropGameAction"⟩]

/-- The relay's renderers of server events. -/
def standardServer : List (Renderer ServerEvent.Kind) :=
  [⟨.chat, "ChatRenderer"⟩, ⟨.userJoined, "UserJoinedRenderer"⟩,
    ⟨.userQuit, "UserQuitRenderer"⟩, ⟨.gameCreated, "GameCreatedRenderer"⟩,
    ⟨.gameClosed, "GameClosedRenderer"⟩,
    ⟨.gameStatusChanged, "GameStatusRenderer"⟩]

/-- The relay's renderers of game events; loss of synchrony has none of its
own. -/
def standardGame : List (Renderer GameEvent.Kind) :=
  [⟨.userJoined, "JoinGameRenderer"⟩, ⟨.userQuit, "QuitGameRenderer"⟩,
    ⟨.started, "StartGameRenderer"⟩, ⟨.allReady, "AllReadyRenderer"⟩,
    ⟨.userDropped, "DropGameRenderer"⟩, ⟨.chat, "GameChatRenderer"⟩,
    ⟨.data, "GameDataRenderer"⟩, ⟨.info, "GameInfoRenderer"⟩,
    ⟨.timeout, "GameTimeoutRenderer"⟩]

/-- The relay's renderers of user events. -/
def standardUser : List (Renderer UserEvent.Kind) :=
  [⟨.connected, "ConnectedRenderer"⟩, ⟨.infoMessage, "InfoMessageRenderer"⟩]

/-- The router of the relay. -/
def standard : Router :=
  ⟨standardActions, standardServer, standardGame, standardUser⟩

/-- The relay's own actions and renderers are accepted. -/
theorem build_standard :
    build standardActions standardServer standardGame standardUser =
      .ok standard := by
  rfl

end Router

end Netplay
