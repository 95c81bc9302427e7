import Cfwdon.Delivery.Outbox
import Cfwdon.Library.SqlTexts

/-!
# Blocked domains

A viewer blocks domains.  Deliveries leave out the inboxes of their hosts, the preview of
domains to block leaves the domains out, and a quote of an actor there is hidden.  Each of
the three compares hosts with the stored domains in its own way: the first one takes the
subdomains in, the others do not.
-/

namespace Cfwdon.Delivery

open Library

def normalizeDomainBlockValue (value : Option String) : Except String String :=
  match (value.map trim).filter (· ≠ "") with
  | none => .error "Validation failed: Domain can't be blank"
  | some domain =>
    if domain.toList.any isWhitespace then
      .error "Validation failed: Domain is not a valid domain name"
    else .ok (toAsciiLowercase domain)

/-- A row of `account_domain_blocks`.  What is stored was accepted. -/
structure DomainBlock where
  accountId : String
  domain : String
  accepted : ∃ value, normalizeDomainBlockValue value = .ok domain

def listAllAccountDomainBlocks (blocks : List DomainBlock) (accountId : String) : List String :=
  (blocks.filter fun block => block.accountId == accountId).map DomainBlock.domain

def domainBlockPreviewCandidates (knownPeerDomains blockedDomains : List String)
    (q : Option String) (limit : Nat) : List String :=
  let blocked := blockedDomains.map fun value => toAsciiLowercase (trim value)
  let query := ((q.map trim).filter (· ≠ "")).map toAsciiLowercase
  ((knownPeerDomains.filter fun domain => !blocked.contains (toAsciiLowercase domain)).filter
    fun domain => query.all fun needle =>
      occursIn needle.toList (toAsciiLowercase domain).toList).take limit

def viewerBlocksDomain (blocks : List DomainBlock) (accountId domain : String) : Bool :=
  blocks.any fun block => block.accountId == accountId && block.domain == domain

/-- `remote_actor_domain`, of an actor with a host in its URL. -/
def remoteActorDomain (host : String) : String := toAsciiLowercase host

/-! ## Stored domains -/

/-- **A stored domain** is not empty, and stays as it is when it is trimmed and folded. -/
theorem DomainBlock.normalized (block : DomainBlock) :
    block.domain ≠ "" ∧ toAsciiLowercase (trim block.domain) = block.domain := by
  obtain ⟨value, ok⟩ := block.accepted
  rw [normalizeDomainBlockValue] at ok
  cases trimmed : (value.map trim).filter (· ≠ "") with
  | none =>
    rw [trimmed] at ok
    cases ok
  | some domain =>
    rw [trimmed] at ok
    dsimp only at ok
    split_ifs at ok with white
    have held : toAsciiLowercase domain = block.domain := Except.ok.inj ok
    have named : domain ≠ "" := of_decide_eq_true (Option.filter_eq_some_iff.mp trimmed).2
    have plain : ∀ c ∈ (toAsciiLowercase domain).toList, isWhitespace c = false := by
      intro c mem
      rw [toList_lowercase] at mem
      obtain ⟨letter, inside, rfl⟩ := List.mem_map.mp mem
      apply isWhitespace_toLower
      rw [Bool.not_eq_true, List.any_eq_false] at white
      exact Bool.eq_false_iff.mpr (white letter inside)
    rw [← held]
    constructor
    · intro empty
      have letters := congrArg String.toList empty
      rw [toList_lowercase] at letters
      exact named (String.toList_eq_nil_iff.mp (List.map_eq_nil_iff.mp letters))
    · rw [trim, trimMatches_of_forall plain, lowercase_lowercase]

/-! ## What is blocked -/

section Blocked

variable {blocks : List DomainBlock} {accountId host : String}

def IsBlocked (blocks : List DomainBlock) (accountId host : String) : Prop :=
  ∃ block ∈ blocks, block.accountId = accountId ∧ toAsciiLowercase host = block.domain

def IsBelowBlocked (blocks : List DomainBlock) (accountId host : String) : Prop :=
  ∃ block ∈ blocks, block.accountId = accountId
    ∧ endsWith (toAsciiLowercase host) ("." ++ block.domain) = true

theorem mem_domainBlocks {domain : String} :
    domain ∈ listAllAccountDomainBlocks blocks accountId
      ↔ ∃ block ∈ blocks, block.accountId = accountId ∧ block.domain = domain := by
  simp only [listAllAccountDomainBlocks, List.mem_map, List.mem_filter, beq_iff_eq, and_assoc]

/-- **Deliveries to the inboxes of a host are left out** if it is a blocked domain or below
one. -/
theorem deliveryInboxBlocked_iff {hostStr : String → Option String} {inbox : String}
    (atHost : hostStr inbox = some host) :
    deliveryInboxBlockedByDomains hostStr inbox (listAllAccountDomainBlocks blocks accountId) = true
      ↔ IsBlocked blocks accountId host ∨ IsBelowBlocked blocks accountId host := by
  have each : deliveryInboxBlockedByDomains hostStr inbox
        (listAllAccountDomainBlocks blocks accountId) = true
      ↔ ∃ domain ∈ listAllAccountDomainBlocks blocks accountId,
        toAsciiLowercase (trim domain) ≠ ""
          ∧ (toAsciiLowercase host = toAsciiLowercase (trim domain)
            ∨ endsWith (toAsciiLowercase host) ("." ++ toAsciiLowercase (trim domain)) = true) := by
    rw [deliveryInboxBlockedByDomains, atHost]
    cases listAllAccountDomainBlocks blocks accountId with
    | nil => simp
    | cons domain rest => simp [List.any_eq_true]
  rw [each]
  constructor
  · rintro ⟨domain, listed, -, eq⟩
    obtain ⟨block, held, own, rfl⟩ := mem_domainBlocks.mp listed
    rw [block.normalized.2] at eq
    rcases eq with equal | below
    · exact .inl ⟨block, held, own, equal⟩
    · exact .inr ⟨block, held, own, below⟩
  · rintro (⟨block, held, own, eq⟩ | ⟨block, held, own, eq⟩)
    · refine ⟨block.domain, mem_domainBlocks.mpr ⟨block, held, own, rfl⟩, ?_⟩
      rw [block.normalized.2]
      exact ⟨block.normalized.1, .inl eq⟩
    · refine ⟨block.domain, mem_domainBlocks.mpr ⟨block, held, own, rfl⟩, ?_⟩
      rw [block.normalized.2]
      exact ⟨block.normalized.1, .inr eq⟩

/-- **The preview never offers a host** if it is a blocked domain. -/
theorem preview_never_offers_iff :
    (∀ knownPeerDomains q limit, ∀ offered ∈ domainBlockPreviewCandidates knownPeerDomains
        (listAllAccountDomainBlocks blocks accountId) q limit,
          toAsciiLowercase offered ≠ toAsciiLowercase host)
      ↔ IsBlocked blocks accountId host := by
  have blocked (domain : String) :
      ((listAllAccountDomainBlocks blocks accountId).map fun value =>
          toAsciiLowercase (trim value)).contains (toAsciiLowercase domain) = true
        ↔ IsBlocked blocks accountId domain := by
    rw [List.contains_iff_mem, List.mem_map]
    constructor
    · rintro ⟨value, listed, eq⟩
      obtain ⟨block, held, own, rfl⟩ := mem_domainBlocks.mp listed
      rw [block.normalized.2] at eq
      exact ⟨block, held, own, eq.symm⟩
    · rintro ⟨block, held, own, eq⟩
      refine ⟨block.domain, mem_domainBlocks.mpr ⟨block, held, own, rfl⟩, ?_⟩
      rw [block.normalized.2, eq]
  constructor
  · intro never
    by_contra free
    refine never [host] none 1 host ?_ rfl
    have kept : (!((listAllAccountDomainBlocks blocks accountId).map fun value =>
        toAsciiLowercase (trim value)).contains (toAsciiLowercase host)) = true := by
      rw [Bool.not_eq_true', Bool.eq_false_iff]
      exact fun listed => free ((blocked host).mp listed)
    have listed : ([host].filter fun domain =>
        !((listAllAccountDomainBlocks blocks accountId).map fun value =>
          toAsciiLowercase (trim value)).contains (toAsciiLowercase domain)) = [host] := by
      rw [List.filter_eq_self]
      intro other mem
      rw [List.mem_singleton.mp mem]
      exact kept
    rw [domainBlockPreviewCandidates, listed]
    exact List.mem_cons_self
  · intro isBlocked knownPeerDomains q limit offered mem eq
    have free := (List.mem_filter.mp (List.mem_filter.mp (List.mem_of_mem_take mem)).1).2
    rw [eq, Bool.not_eq_true', Bool.eq_false_iff] at free
    exact free ((blocked host).mpr isBlocked)

/-- **The quotes of the actors of a host are hidden** if it is a blocked domain. -/
theorem viewerBlocksDomain_iff :
    viewerBlocksDomain blocks accountId (remoteActorDomain host) = true
      ↔ IsBlocked blocks accountId host := by
  rw [viewerBlocksDomain, List.any_eq_true]
  refine exists_congr fun block => and_congr_right fun _ => ?_
  rw [Bool.and_eq_true, beq_iff_eq, beq_iff_eq, remoteActorDomain]
  exact and_congr_right fun _ => eq_comm

end Blocked

/-- **Deliveries, the preview and quotes agree about a host**, which is blocked with the domains
above it, exactly if it is not below a blocked domain or is blocked itself. -/
theorem domain_blocks_agree_iff (hostStr : String → Option String) (blocks : List DomainBlock)
    (accountId host : String) :
    ((∀ inbox, hostStr inbox = some host →
        (deliveryInboxBlockedByDomains hostStr inbox
            (listAllAccountDomainBlocks blocks accountId) = true
          ↔ IsBlocked blocks accountId host ∨ IsBelowBlocked blocks accountId host))
      ∧ ((∀ knownPeerDomains q limit, ∀ offered ∈ domainBlockPreviewCandidates knownPeerDomains
            (listAllAccountDomainBlocks blocks accountId) q limit,
              toAsciiLowercase offered ≠ toAsciiLowercase host)
          ↔ IsBlocked blocks accountId host ∨ IsBelowBlocked blocks accountId host)
      ∧ (viewerBlocksDomain blocks accountId (remoteActorDomain host) = true
          ↔ IsBlocked blocks accountId host ∨ IsBelowBlocked blocks accountId host))
      ↔ (IsBelowBlocked blocks accountId host → IsBlocked blocks accountId host) := by
  rw [preview_never_offers_iff, viewerBlocksDomain_iff, and_self]
  constructor
  · rintro ⟨-, agree⟩ below
    exact agree.mpr (.inr below)
  · intro itself
    refine ⟨fun inbox atHost => deliveryInboxBlocked_iff atHost, ?_⟩
    exact ⟨.inl, fun either => either.elim id itself⟩

/-! ### A subdomain -/

theorem accepted_blockedExample :
    ∃ value, normalizeDomainBlockValue value = .ok "blocked.example" :=
  ⟨some " Blocked.example ", by decide⟩

def blockedExample : DomainBlock where
  accountId := "account-a"
  domain := "blocked.example"
  accepted := accepted_blockedExample

/-- The host of an inbox below it. -/
def subdomainHost (url : String) : Option String :=
  if url = "https://sub.blocked.example/inbox" then some "sub.blocked.example" else none

/-- A subdomain gets no deliveries, is offered to be blocked, and its quotes are shown. -/
theorem subdomain_is_half_blocked :
    deliveryInboxBlockedByDomains subdomainHost "https://sub.blocked.example/inbox"
        (listAllAccountDomainBlocks [blockedExample] "account-a") = true
      ∧ domainBlockPreviewCandidates ["sub.blocked.example"]
        (listAllAccountDomainBlocks [blockedExample] "account-a") none 20 = ["sub.blocked.example"]
      ∧ viewerBlocksDomain [blockedExample] "account-a" (remoteActorDomain "sub.blocked.example")
        = false := by
  refine ⟨by decide, by decide, by decide⟩

end Cfwdon.Delivery
