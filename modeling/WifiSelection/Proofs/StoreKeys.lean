import WifiSelection.Network
import WifiSelection.Samples

/-!
Which networks are stored under one configuration key. The key of an identity tells the identity: no
two security classes have suffixes with the same three characters at the end, so a text that ends in
a suffix tells the class and what comes before. Of an SSID in double quotes, though, the identity has
only what is between them; and a Passpoint network, told by its domain, shares its key with the
enterprise network of an SSID if the domain reads like that SSID in double quotes.
-/

namespace WifiSelection

namespace Ssid

def IsQuoted (ssid : String) : Prop :=
  ∃ inner, ssid = quote inner

theorem toList_quote (ssid : String) : (quote ssid).toList = '"' :: (ssid.toList ++ ['"']) := by
  simp [quote]

theorem unquote_quote (ssid : String) : unquote (quote ssid) = ssid := by
  simp [unquote, toList_quote]

theorem quote_inj {left right : String} : quote left = quote right ↔ left = right := by
  constructor
  · intro same
    rw [← unquote_quote left, same, unquote_quote]
  · rintro rfl
    rfl

theorem isQuoted_iff {ssid : String} : IsQuoted ssid ↔ ssid = quote (unquote ssid) := by
  constructor
  · rintro ⟨inner, rfl⟩
    rw [unquote_quote]
  · exact fun same => ⟨unquote ssid, same⟩

instance : DecidablePred IsQuoted := fun _ =>
  decidable_of_iff _ isQuoted_iff.symm

theorem unquote_of_not_isQuoted {ssid : String} (plain : ¬IsQuoted ssid) : unquote ssid = ssid := by
  rw [unquote]
  split
  next rest opened =>
    split
    next inner closed =>
      refine absurd ⟨String.ofList inner.reverse, ?_⟩ plain
      rw [← String.toList_inj, toList_quote, opened, List.reverse_eq_cons_iff.mp closed]
      simp
    next => rfl
  next => rfl

theorem ne_quote (ssid : String) : ssid ≠ quote ssid := by
  intro same
  have lengths := congrArg (fun text : String => text.toList.length) same
  simp only [toList_quote, List.length_cons, List.length_append] at lengths
  omega

end Ssid

namespace Security

def ending (security : Security) : List Char :=
  security.keySuffix.toList.reverse.take 3

theorem ending_injective {left right : Security} (same : left.ending = right.ending) :
    left = right := by
  cases left <;> cases right <;> first | rfl | exact absurd same (by decide)

theorem take_reverse_append_keySuffix (text : String) (security : Security) :
    (text ++ security.keySuffix).toList.reverse.take 3 = security.ending := by
  have long : 3 ≤ security.keySuffix.toList.reverse.length := by
    cases security <;> decide
  rw [String.toList_append, List.reverse_append, List.take_append_of_le_length long, ending]

theorem append_keySuffix_inj {left right : String} {leftSecurity rightSecurity : Security} :
    left ++ leftSecurity.keySuffix = right ++ rightSecurity.keySuffix ↔
      left = right ∧ leftSecurity = rightSecurity := by
  constructor
  · intro same
    have endings := congrArg (fun text : String => text.toList.reverse.take 3) same
    simp only [take_reverse_append_keySuffix] at endings
    obtain rfl := ending_injective endings
    have texts := congrArg String.toList same
    rw [String.toList_append, String.toList_append] at texts
    exact ⟨String.toList_inj.mp (List.append_cancel_right texts), rfl⟩
  · rintro ⟨rfl, rfl⟩
    rfl

end Security

namespace NetworkIdentity

theorem storeKey_eq_iff {left right : NetworkIdentity} :
    left.storeKey = right.storeKey ↔ left.ssid = right.ssid ∧ left.security = right.security := by
  rw [storeKey, storeKey, Security.append_keySuffix_inj, Ssid.quote_inj]

theorem storeKey_injective {left right : NetworkIdentity}
    (same : left.storeKey = right.storeKey) : left = right := by
  obtain ⟨leftSsid, leftSecurity⟩ := left
  obtain ⟨rightSsid, rightSecurity⟩ := right
  rw [mk.injEq]
  exact storeKey_eq_iff.mp same

end NetworkIdentity

namespace Network

section Kinds

variable {network : Network}

theorem storeKey_of_domain {fqdn : String} (named : network.fqdn = some fqdn) :
    network.storeKey = fqdn ++ Security.eap.keySuffix := by
  rw [storeKey, named]

theorem storeKey_of_nameless (nameless : network.fqdn = none) :
    network.storeKey = network.identity.storeKey := by
  rw [storeKey, nameless]

theorem storeKey_of_plain (plain : network.isPasspoint = false) :
    network.storeKey = network.identity.storeKey := by
  apply storeKey_of_nameless
  rw [isPasspoint, Option.isSome_eq_false_iff, Option.isNone_iff_eq_none] at plain
  exact plain

theorem isPasspoint_or_identity_eq {identity : NetworkIdentity}
    (sameKey : network.storeKey = identity.storeKey) :
    network.isPasspoint = true ∨ network.identity = identity := by
  cases kind : network.isPasspoint with
  | true => exact Or.inl rfl
  | false =>
      rw [storeKey_of_plain kind] at sameKey
      exact Or.inr (NetworkIdentity.storeKey_injective sameKey)

end Kinds

/-- The domain of a Passpoint network reads like the SSID of an enterprise network in double
quotes. -/
def Mimics (passpoint plain : Network) : Prop :=
  passpoint.fqdn = some (Ssid.quote plain.plainSsid) ∧ plain.fqdn = none ∧ plain.security = .eap

theorem storeKey_eq_of_domain_iff {passpoint plain : Network} {fqdn : String}
    (named : passpoint.fqdn = some fqdn) (nameless : plain.fqdn = none) :
    passpoint.storeKey = plain.storeKey ↔ passpoint.Mimics plain := by
  have quoted : plain.storeKey = Ssid.quote plain.plainSsid ++ plain.security.keySuffix :=
    storeKey_of_nameless nameless
  rw [storeKey_of_domain named, quoted, Security.append_keySuffix_inj, Mimics, named,
    Option.some.injEq, eq_comm (a := Security.eap)]
  exact ⟨fun ⟨same, enterprise⟩ => ⟨same, nameless, enterprise⟩,
    fun ⟨same, _, enterprise⟩ => ⟨same, enterprise⟩⟩

/-- Two networks have one configuration key when neither is a Passpoint network and they have one
identity, when both are and have one domain, or when one mimics the other; and in no other case. The
keys of identities are all different. -/
theorem storeKeys_collide_iff (left right : Network) :
    (left.storeKey = right.storeKey ↔
      (left.fqdn = none ∧ right.fqdn = none ∧ left.identity = right.identity) ∨
      (∃ fqdn, left.fqdn = some fqdn ∧ right.fqdn = some fqdn) ∨
      left.Mimics right ∨ right.Mimics left) ∧
    ∀ identity other : NetworkIdentity, identity.storeKey = other.storeKey ↔
      identity.ssid = other.ssid ∧ identity.security = other.security := by
  refine ⟨?_, fun identity other => NetworkIdentity.storeKey_eq_iff⟩
  cases leftName : left.fqdn with
  | none =>
      cases rightName : right.fqdn with
      | none =>
          have identities : left.identity.storeKey = right.identity.storeKey ↔
              left.identity = right.identity :=
            ⟨NetworkIdentity.storeKey_injective, congrArg NetworkIdentity.storeKey⟩
          rw [storeKey_of_nameless leftName, storeKey_of_nameless rightName, identities]
          simp [Mimics, leftName, rightName]
      | some domain =>
          rw [eq_comm, storeKey_eq_of_domain_iff rightName leftName]
          simp [Mimics, leftName, rightName]
  | some domain =>
      cases rightName : right.fqdn with
      | none =>
          rw [storeKey_eq_of_domain_iff leftName rightName]
          simp [Mimics, leftName, rightName]
      | some other =>
          rw [storeKey_of_domain leftName, storeKey_of_domain rightName,
            Security.append_keySuffix_inj]
          simp [Mimics, leftName, rightName, eq_comm]

example : ({ Samples.network 1 "" .eap with fqdn := some "\"hall\"" } : Network).storeKey =
    (Samples.network 2 "hall" .eap).storeKey := by
  decide

end Network

end WifiSelection
