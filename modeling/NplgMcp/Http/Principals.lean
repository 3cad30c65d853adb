import NplgMcp.Encoding
import NplgMcp.Http.Admission

/-!
# Principals and their credentials

The part of `AppConfig` that the HTTP boundary reads, with what `load_config` has checked of it, and
`_authenticated_principal` of `McpSecurityMiddleware`: who a list of headers speaks for. Header
names and values are the bytes the server passes on, in any case, order and number.
-/

namespace NplgMcp

/-- `ApiPrincipalCredential`: exactly one credential. -/
structure ApiPrincipalCredential where
  principalId : String
  bearerToken : Option String := none
  apiKey : Option String := none
  one_credential : bearerToken.isSome ≠ apiKey.isSome

/-- `_RESERVED_PRINCIPAL_IDS`. -/
def reservedPrincipalIds : List String := ["anonymous", "legacy-api-key", "legacy-bearer"]

/-- `McpAuthorityMode`. -/
inductive McpAuthorityMode where
  | direct
  | alpicGateway
  deriving DecidableEq, Repr

/-- `AppConfig`, as far as the HTTP boundary reads it. -/
structure AppConfig where
  apiPrincipals : List ApiPrincipalCredential := []
  apiBearerToken : Option String := none
  apiKey : Option String := none
  allowAnonymous : Bool := false
  maxConcurrentMcpRequests : ℕ := 16
  maxConcurrentMcpRequestsPerPrincipal : ℕ := 4
  mcpAllowedHosts : List String := ["127.0.0.1:8000"]
  mcpAllowedOrigins : List String := []
  mcpAuthorityMode : McpAuthorityMode := .direct
  mcpMaxBodyBytes : ℕ := 1048576
  principalIds_nodup : (apiPrincipals.map (·.principalId)).Nodup := by decide
  principalIds_not_reserved :
    ∀ principal ∈ apiPrincipals, principal.principalId ∉ reservedPrincipalIds := by decide
  requests_pos : 0 < maxConcurrentMcpRequests := by decide
  requestsPerPrincipal_pos : 0 < maxConcurrentMcpRequestsPerPrincipal := by decide
  maxBodyBytes_mem : 1 ≤ mcpMaxBodyBytes ∧ mcpMaxBodyBytes ≤ 1048576 := by decide

namespace AppConfig

variable {config : AppConfig}

/-- The `principal_ids` of `McpSecurityMiddleware.__init__`. -/
def principalIds (config : AppConfig) : List String :=
  config.apiPrincipals.map (·.principalId) ++
    (if config.apiBearerToken.isSome then ["legacy-bearer"] else []) ++
    if config.apiKey.isSome then ["legacy-api-key"] else []

/-- A name that may be added once more is not repeated. -/
theorem nodup_append_ite {names : List String} {name : String} {p : Prop} [Decidable p]
    (hnodup : names.Nodup) (h : name ∉ names) : (names ++ if p then [name] else []).Nodup := by
  split_ifs
  · refine List.nodup_append.2 ⟨hnodup, by simp, fun other hother last hlast heq => ?_⟩
    rw [List.mem_singleton.1 hlast] at heq
    exact h (heq ▸ hother)
  · rwa [List.append_nil]

/-- A configured principal is not one of the reserved ones. -/
theorem notMem_of_reserved {name : String} (h : name ∈ reservedPrincipalIds) :
    name ∉ config.apiPrincipals.map (·.principalId) := by
  intro hmem
  obtain ⟨principal, hprincipal, rfl⟩ := List.mem_map.1 hmem
  exact config.principalIds_not_reserved principal hprincipal h

/-- `PrincipalAdmission` accepts the identifiers: the legacy ones are reserved. -/
theorem nodup_principalIds : config.principalIds.Nodup := by
  have hbearer : "legacy-bearer" ∉ config.apiPrincipals.map (·.principalId) :=
    notMem_of_reserved (by decide)
  have hkey : "legacy-api-key" ∉ config.apiPrincipals.map (·.principalId) :=
    notMem_of_reserved (by decide)
  refine nodup_append_ite (nodup_append_ite config.principalIds_nodup hbearer) ?_
  rw [List.mem_append]
  rintro (hmem | hmem)
  · exact hkey hmem
  · split_ifs at hmem
    · simp at hmem
    · simp at hmem

/-- No gate is kept for the anonymous principal. -/
theorem anonymous_notMem : "anonymous" ∉ config.principalIds := by
  have hanonymous : "anonymous" ∉ config.apiPrincipals.map (·.principalId) :=
    notMem_of_reserved (by decide)
  unfold principalIds
  split_ifs <;> simp only [List.append_nil, List.mem_append, List.mem_singleton, hanonymous,
    false_or] <;> decide

/-- The gates of a new `McpSecurityMiddleware`. -/
def gates (config : AppConfig) : RequestGates where
  admission :=
    { capacity := config.maxConcurrentMcpRequests, capacity_pos := config.requests_pos }
  principalAdmission :=
    if h : config.principalIds = [] then none
    else some (.create config.principalIds config.maxConcurrentMcpRequestsPerPrincipal
      config.requestsPerPrincipal_pos h nodup_principalIds)

end AppConfig

/-! ## Authentication -/

/-- `[value for name, value in headers if name.lower() == wanted]`. -/
def headerValues (headers : List (Bytes × Bytes)) (wanted : String) : List Bytes :=
  (headers.filter fun header => lowerBytes header.1 == ascii wanted).map (·.2)

/-- What is expected of a credential header: `Bearer` and the token, or the bare key. -/
def expectedCredential (authorization : Bool) (secret : String) : Bytes :=
  if authorization then encodeUtf8 ("Bearer " ++ secret) else encodeUtf8 secret

/-- Whether the loop of `_authenticated_principal` takes the principal: `authorization` says which
of the two headers is presented. -/
def ApiPrincipalCredential.accepts (principal : ApiPrincipalCredential) (authorization : Bool)
    (presented : Bytes) : Bool :=
  (if authorization then principal.bearerToken else principal.apiKey).any fun secret =>
    presented == expectedCredential authorization secret

/-- The legacy credential after the loop. -/
def AppConfig.acceptsLegacy (config : AppConfig) (authorization : Bool) (presented : Bytes) : Bool :=
  (if authorization then config.apiBearerToken else config.apiKey).any fun legacy =>
    presented == expectedCredential authorization legacy

/-- The principal of one presented credential: the legacy one, or the last that matches. -/
def matchedPrincipal (config : AppConfig) (authorization : Bool) (presented : Bytes) :
    Option String :=
  let matched := config.apiPrincipals.foldl (fun matched principal =>
    if principal.accepts authorization presented then some principal.principalId
    else matched) none
  if config.acceptsLegacy authorization presented then
    some (if authorization then "legacy-bearer" else "legacy-api-key")
  else matched

/-- `_authenticated_principal`. -/
def authenticatedPrincipal (config : AppConfig) (headers : List (Bytes × Bytes)) : Option String :=
  match headerValues headers "authorization", headerValues headers "x-api-key" with
  | [], [] => if config.allowAnonymous then some "anonymous" else none
  | [presented], [] => matchedPrincipal config true presented
  | [], [presented] => matchedPrincipal config false presented
  | _, _ => none

/-- The presented credential belongs to a configured principal. -/
def AppConfig.Knows (config : AppConfig) (authorization : Bool) (presented : Bytes) : Prop :=
  (∃ principal ∈ config.apiPrincipals, principal.accepts authorization presented = true) ∨
    config.acceptsLegacy authorization presented = true

/-- Exactly one credential is presented and it is known, or none where none is needed. -/
def AppConfig.Authenticated (config : AppConfig) (headers : List (Bytes × Bytes)) : Prop :=
  (headerValues headers "authorization" = [] ∧ headerValues headers "x-api-key" = [] ∧
      config.allowAnonymous = true) ∨
    (∃ presented, headerValues headers "authorization" = [presented] ∧
      headerValues headers "x-api-key" = [] ∧ config.Knows true presented) ∨
    ∃ presented, headerValues headers "authorization" = [] ∧
      headerValues headers "x-api-key" = [presented] ∧ config.Knows false presented

section
variable {config : AppConfig} {authorization : Bool} {presented : Bytes} {principalId : String}
  {headers : List (Bytes × Bytes)}

/-- The loop returns a principal it accepts, or what it starts with if it accepts none. -/
theorem foldl_accepts {matched : Option String} :
    ∀ {principals : List ApiPrincipalCredential},
      (∃ principal ∈ principals, principal.accepts authorization presented = true ∧
        principals.foldl (fun matched principal =>
          if principal.accepts authorization presented then some principal.principalId
          else matched) matched = some principal.principalId) ∨
      (∀ principal ∈ principals, principal.accepts authorization presented = false) ∧
        principals.foldl (fun matched principal =>
          if principal.accepts authorization presented then some principal.principalId
          else matched) matched = matched := by
  intro principals
  induction principals generalizing matched with
  | nil => exact .inr ⟨by simp, rfl⟩
  | cons first rest ih =>
      simp only [List.foldl_cons]
      cases haccepts : first.accepts authorization presented with
      | false =>
          simp only [Bool.false_eq_true, if_false]
          obtain ⟨principal, hmem, hboth⟩ | ⟨hnone, heq⟩ := @ih matched
          · exact .inl ⟨principal, List.mem_cons_of_mem _ hmem, hboth⟩
          · exact .inr ⟨List.forall_mem_cons.2 ⟨haccepts, hnone⟩, heq⟩
      | true =>
          simp only [if_true]
          obtain ⟨principal, hmem, hboth⟩ | ⟨hnone, heq⟩ := @ih (some first.principalId)
          · exact .inl ⟨principal, List.mem_cons_of_mem _ hmem, hboth⟩
          · exact .inl ⟨first, List.mem_cons_self, haccepts, heq⟩

/-- A matched principal has a gate of its own. -/
theorem mem_of_matchedPrincipal (h : matchedPrincipal config authorization presented =
    some principalId) : principalId ∈ config.principalIds := by
  unfold matchedPrincipal at h
  unfold AppConfig.principalIds
  cases hlegacy : config.acceptsLegacy authorization presented with
  | true =>
      rw [hlegacy, if_pos rfl] at h
      unfold AppConfig.acceptsLegacy at hlegacy
      obtain ⟨legacy, hsome, -⟩ := (Option.any_eq_true _ _).1 hlegacy
      cases authorization with
      | true =>
          obtain rfl := Option.some.inj h
          rw [if_pos rfl] at hsome
          simp [hsome]
      | false =>
          obtain rfl := Option.some.inj h
          rw [if_neg (by decide)] at hsome
          simp [hsome]
  | false =>
      rw [hlegacy, if_neg (by decide)] at h
      obtain ⟨principal, hmem, -, heq⟩ | ⟨-, heq⟩ :=
        @foldl_accepts authorization presented none config.apiPrincipals
      · obtain rfl := Option.some.inj (heq.symm.trans h)
        exact List.mem_append_left _ (List.mem_append_left _ (List.mem_map_of_mem hmem))
      · exact absurd (heq.symm.trans h) (by simp)

/-- A credential is matched exactly when a configured principal has it. -/
theorem matchedPrincipal_isSome :
    (matchedPrincipal config authorization presented).isSome = true ↔
      config.Knows authorization presented := by
  unfold matchedPrincipal AppConfig.Knows
  cases hlegacy : config.acceptsLegacy authorization presented with
  | true => simp
  | false =>
      obtain ⟨principal, hmem, haccepts, heq⟩ | ⟨hnone, heq⟩ :=
        @foldl_accepts authorization presented none config.apiPrincipals
      · simp only [Bool.false_eq_true, if_false, heq, Option.isSome_some, or_false, true_iff]
        exact ⟨principal, hmem, haccepts⟩
      · simp only [Bool.false_eq_true, if_false, heq, Option.isSome_none, or_false, false_iff]
        rintro ⟨principal, hmem, haccepts⟩
        exact absurd haccepts (by rw [hnone principal hmem]; decide)

/-- Who is authenticated is anonymous or has a gate of its own. -/
theorem mem_of_authenticatedPrincipal (h : authenticatedPrincipal config headers =
    some principalId) : principalId = "anonymous" ∨ principalId ∈ config.principalIds := by
  unfold authenticatedPrincipal at h
  split at h
  · split_ifs at h
    exact .inl (Option.some.inj h).symm
  · exact .inr (mem_of_matchedPrincipal h)
  · exact .inr (mem_of_matchedPrincipal h)
  · cases h

/-- **Authentication.** A principal is found exactly when exactly one credential is presented and a
configured principal has it, or none is presented and none is needed. -/
theorem authenticatedPrincipal_isSome :
    (authenticatedPrincipal config headers).isSome = true ↔ config.Authenticated headers := by
  unfold authenticatedPrincipal AppConfig.Authenticated
  split
  · next hbearer hkey => cases config.allowAnonymous <;> simp [hbearer, hkey]
  · next hbearer hkey => simp [hbearer, hkey, matchedPrincipal_isSome]
  · next hbearer hkey => simp [hbearer, hkey, matchedPrincipal_isSome]
  · next hnone hbearer hkey =>
      refine iff_of_false (by simp) ?_
      rintro (⟨hno, hno', -⟩ | ⟨presented, hone, hno, -⟩ | ⟨presented, hno, hone, -⟩)
      · exact hnone hno hno'
      · exact hbearer presented hone hno
      · exact hkey presented hno hone

end

end NplgMcp
