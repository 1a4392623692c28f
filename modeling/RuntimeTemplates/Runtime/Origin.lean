import RuntimeTemplates.Runtime.Proxy

/-!
# RuntimeTemplates.Runtime.Origin

The origins that calls are dispatched with: a caller, and the filters that were put on it on the
way. Root passes every filter.

* `Environment`: what the runtime computes from the arguments alone, outside the templates.
* `filterCall`: whether an origin may dispatch a call.
-/

namespace RuntimeTemplates
namespace Runtime

/-- A filter on an origin: the one of a proxy, or the one by which `batch_all` does not nest. -/
inductive CallFilter where
  | proxy (ty : ProxyType)
  | noBatchAll
  deriving DecidableEq

structure Origin (t : Template) where
  caller : t.RuntimeOrigin
  filters : List CallFilter

/-- `derivative_account_id` and `multi_account_id` are hashes; `validSignatories` is the check on
the order and number of the other signatories; `callWeight` is what a call declares. -/
structure Environment (t : Template) where
  baseCallFilter : RuntimeCall t → Bool
  derivativeAccountId : t.AccountId → UInt16 → t.AccountId
  multiAccountId : t.AccountId → List t.AccountId → UInt16 → t.AccountId
  validSignatories : t.AccountId → List t.AccountId → Bool
  callWeight : RuntimeCall t → Weight
  batchedCallsLimit : Nat

section Callers

variable {AccountId Ethereum : Type}

def isRoot : OriginCaller AccountId Ethereum → Bool
  | .system .root => true
  | _ => false

def isNone : OriginCaller AccountId Ethereum → Bool
  | .system .none => true
  | _ => false

/-- `ensure_signed`. -/
def signer : OriginCaller AccountId Ethereum → Option AccountId
  | .system (.signed who) => some who
  | _ => none

/-- `EitherOf<EnsureRoot, WhitelistedCaller>`. -/
def mayDispatchWhitelisted : OriginCaller AccountId Ethereum → Bool
  | .system .root => true
  | .origins .whitelistedCaller => true
  | _ => false

end Callers

variable {t : Template}

def CallFilter.accepts (f : CallFilter) (c : RuntimeCall t) : Bool :=
  match f with
  | .proxy ty => proxyFilter ty c
  | .noBatchAll =>
    match c with
    | .utility (.batchAll _) => false
    | _ => true

namespace Origin

/-- An origin as it enters: with no filter but the runtime's own. -/
def fresh (caller : t.RuntimeOrigin) : Origin t := ⟨caller, []⟩

def addFilter (o : Origin t) (f : CallFilter) : Origin t := { o with filters := f :: o.filters }

/-- The origin with which a proxy of type `ty` acts for `real`. -/
def proxied (ty : ProxyType) (real : t.AccountId) : Origin t :=
  (fresh (.signed real)).addFilter (.proxy ty)

def filterCall (env : Environment t) (o : Origin t) (c : RuntimeCall t) : Bool :=
  isRoot o.caller || (env.baseCallFilter c && o.filters.all fun f => f.accepts c)

end Origin

end Runtime
end RuntimeTemplates
