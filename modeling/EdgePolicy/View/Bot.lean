import EdgePolicy.Payload.Json
import EdgePolicy.View.Reading

/-
The bot rules of hosts, read back from rules.

The entries are sorted by host, and of two rules for one host the later one counts.
-/

set_option autoImplicit false
set_option relaxedAutoImplicit false

namespace EdgePolicy

open Json (Value insertMember)

/-- Bot rules by host. -/
structure BotView where
  knownBots : List (String × KnownBotRule)
  verifiedBots : List (String × VerifiedBotRule)
  skipped : List UnreadableRule
deriving DecidableEq, Repr

namespace BotView

def empty : BotView := ⟨[], [], []⟩

def skip (view : BotView) (listed : List UnreadableRule) : BotView :=
  { view with skipped := view.skipped ++ listed }

def add (view : BotView) (rule : RemoteRule) : BotView :=
  match rule.category? with
  | some .knownBot =>
    match rule.readingOn .knownBot with
    | (some (host, condition), listed) =>
      { view.skip listed with
        knownBots := insertMember host ⟨condition.operand == .flag true, rule.action⟩
          view.knownBots }
    | (none, listed) => view.skip listed
  | some .verifiedBot =>
    match rule.readingOn .verifiedBotCategory with
    | (some (host, condition), listed) =>
      { view.skip listed with
        verifiedBots := insertMember host
          ⟨condition.operator, condition.operand.items, rule.action⟩ view.verifiedBots }
    | (none, listed) => view.skip listed
  | _ => view

def ofRules (rules : List RemoteRule) : BotView := rules.foldl add empty

def json (view : BotView) : Value :=
  .object [("knownBotList", Json.mapped KnownBotRule.json view.knownBots),
    ("verifiedCategoryList", Json.mapped VerifiedBotRule.json view.verifiedBots),
    ("skipped", .array (view.skipped.map UnreadableRule.json))]

end BotView

end EdgePolicy
