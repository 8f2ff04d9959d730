import EdgePolicy.Expression.Compile
import EdgePolicy.Policy.Category

/-
Policy rules and the desired state they compile to.

A policy rule says what one category wants for one domain; compiled, it says which body the tagged
rule should have, or that there should be no such rule.
-/

set_option autoImplicit false
set_option relaxedAutoImplicit false

namespace EdgePolicy

open Json (Document Value)

/-- What one category wants for one domain.  Groups are alternatives. -/
structure PolicyRule where
  category : Category
  domain : String
  action : Action
  groups : List Group
  parameters : Option Value
deriving Repr

structure DesiredBody where
  action : Action
  expression : String
  enabled : Bool
  parameters : Option Value
  logging : Option Logging
deriving Repr, Inhabited

/-- The desired state of one tag; without a body the rule must not exist. -/
structure DesiredRule where
  category : Category
  domain : String
  body : Option DesiredBody
deriving Repr, Inhabited

def PolicyRule.tag (rule : PolicyRule) : String := rule.category.tag rule.domain

namespace DesiredRule

def tag (rule : DesiredRule) : String := rule.category.tag rule.domain

def absent (category : Category) (domain : String) : DesiredRule := ⟨category, domain, none⟩

/-- Set the logging block, if the rule must exist. -/
def withLogging (rule : DesiredRule) (logging : Logging) : DesiredRule :=
  { rule with body := rule.body.map fun body => { body with logging := some logging } }

end DesiredRule

namespace PolicyRule

/-- The expression of the zone-wide DDoS override. -/
def matchAll : String := "true"

/-- The expression of a rule, if the rule must exist: a cache rule and the DDoS override always
exist, any other rule exists when it has a group. -/
def expression? (rule : PolicyRule) : Except ConditionFault (Option String) :=
  match rule.category with
  | .ddosOverride => .ok (some matchAll)
  | .cache => (Expression.compile rule.groups rule.domain).map some
  | _ =>
    if rule.groups.isEmpty then .ok none
    else (Expression.compile rule.groups rule.domain).map some

def desired (rule : PolicyRule) : Except ConditionFault DesiredRule := do
  let expression? ← rule.expression?
  return {
    category := rule.category
    domain := rule.domain
    body := expression?.map fun expression =>
      { action := rule.action, expression, enabled := true, parameters := rule.parameters,
        logging := none } }

end PolicyRule

end EdgePolicy
