import Sip3.Platform

/-!
# Access control

`acl.rs`. Rules are matched in order, and the first rule whose network contains an address decides.
-/

namespace Sip3.Security

open Text

/-- `AclAction`. -/
inductive AclAction where
  | allow
  | deny
  deriving DecidableEq

/-- The bits of an address as a number. -/
def addressValue : IpAddr → Nat
  | .v4 octets => octets.toList.foldl (fun value octet => value * 2 ^ 8 + octet.toNat) 0
  | .v6 segments => segments.toList.foldl (fun value segment => value * 2 ^ 16 + segment.toNat) 0

/-- The number of bits of an address. -/
def addressWidth : IpAddr → Nat
  | .v4 _ => 32
  | .v6 _ => 128

/-- `ipnet::IpNet`: an address and the number of its bits that matter. -/
structure IpNet where
  addr : IpAddr
  length : Nat
  length_le : length ≤ addressWidth addr
  deriving DecidableEq

/-- `IpNet::contains`: the same family, and the same leading bits. -/
def IpNet.contains (network : IpNet) (ip : IpAddr) : Bool :=
  decide (addressWidth network.addr = addressWidth ip) &&
    decide (addressValue network.addr / 2 ^ (addressWidth network.addr - network.length) =
      addressValue ip / 2 ^ (addressWidth network.addr - network.length))

/-- `AclRule`. -/
structure AclRule where
  action : AclAction
  network : IpNet
  deriving DecidableEq

/-- `DefaultPolicy`. -/
inductive DefaultPolicy where
  | allow
  | deny
  deriving DecidableEq

namespace DefaultPolicy

/-- `DefaultPolicy::from_config`. -/
def fromConfig (platform : Platform) (text : Str) : DefaultPolicy :=
  if platform.toLowercase (Str.trim text) = "deny".toList then .deny else .allow

/-- `DefaultPolicy::is_allowed`. -/
def isAllowed : DefaultPolicy → Bool
  | allow => true
  | deny => false

end DefaultPolicy

/-- `AclChecker`. -/
structure AclChecker where
  rules : List AclRule
  defaultPolicy : DefaultPolicy
  deriving DecidableEq

namespace AclChecker

/-- `AclChecker::new`. -/
def new (defaultPolicy : DefaultPolicy) : AclChecker := ⟨[], defaultPolicy⟩

/-- The loop of `AclChecker::is_allowed`. -/
def isAllowedBy (defaultPolicy : DefaultPolicy) (ip : IpAddr) : List AclRule → Bool
  | [] => defaultPolicy.isAllowed
  | rule :: rest =>
    if rule.network.contains ip then decide (rule.action = .allow)
    else isAllowedBy defaultPolicy ip rest

/-- `AclChecker::is_allowed`. -/
def isAllowed (checker : AclChecker) (ip : IpAddr) : Bool :=
  isAllowedBy checker.defaultPolicy ip checker.rules

/-- The first rule that matches an address. -/
def firstMatch (checker : AclChecker) (ip : IpAddr) : Option AclRule :=
  checker.rules.find? fun rule => rule.network.contains ip

theorem isAllowedBy_eq (defaultPolicy : DefaultPolicy) (ip : IpAddr) (rules : List AclRule) :
    isAllowedBy defaultPolicy ip rules = (rules.find? fun rule => rule.network.contains ip).elim
      defaultPolicy.isAllowed fun rule => decide (rule.action = .allow) := by
  induction rules with
  | nil => rfl
  | cons rule rest ih =>
    rw [isAllowedBy, List.find?_cons]
    split
    · next contained => rw [contained]; rfl
    · next outside => rw [Bool.not_eq_true] at outside; rw [outside]; exact ih

/-- The first matching rule decides, and without one the default policy. -/
theorem isAllowed_eq (checker : AclChecker) (ip : IpAddr) : checker.isAllowed ip =
    (checker.firstMatch ip).elim checker.defaultPolicy.isAllowed fun rule =>
      decide (rule.action = .allow) :=
  isAllowedBy_eq checker.defaultPolicy ip checker.rules

/-- The first matching rule denies the address. -/
def Denies (checker : AclChecker) (ip : IpAddr) : Prop :=
  (checker.firstMatch ip).map (·.action) = some .deny

theorem isAllowed_of_denies {checker : AclChecker} {ip : IpAddr} (denies : checker.Denies ip) :
    checker.isAllowed ip = false := by
  obtain ⟨rule, first, denied⟩ := Option.map_eq_some_iff.mp denies
  rw [isAllowed_eq, first, Option.elim_some, denied]
  rfl

end AclChecker

end Sip3.Security
