import NplgMcp.Library.Links

/-!
# CNAME chains

`_canonical_cname_chain` of `network.py`: the links that the CNAME record sets of a DNS answer give, and
the walk along them from the host. Names and record data belong to the resolver's library; only the
canonical texts it makes of them are used here. Main result: `canonicalCnameChain_iff`, that a chain is
returned exactly if the links are one path from the host to the resolver's canonical name.
-/

open Library Library.Links

namespace NplgMcp.Network

/-! ## The answer of a resolver -/

/-- A record set: its owner, its type and its records. -/
structure RRset (Name Rdata : Type) where
  name : Name
  rdtype : ℕ
  records : List Rdata

/-- `dns.rdatatype.CNAME`. -/
def cname : ℕ := 5

/-- The parts of a `dns.resolver.Answer` that are read: the answer section of the response, and the
canonical name of its chaining result. -/
structure Answer (Name Rdata : Type) where
  answer : List (RRset Name Rdata)
  canonicalName : Name

/-- What the library makes of names: the canonical text of a name, of the name that the text of a record
names, and of the name that a text is, unless the text is no name. -/
structure NameCodec (Name Rdata Text Error : Type) where
  nameText : Name → Text
  recordText : Rdata → Except Error Text
  fromText : String → Except Error Text

/-- What is raised: a `_DnsPolicyRejectionError`, or an error of the library. -/
inductive ChainError (Error : Type) where
  | policyRejection (message : String)
  | library (error : Error)
  deriving DecidableEq

section
variable {Name Rdata Text Error : Type} [DecidableEq Text] (codec : NameCodec Name Rdata Text Error)

/-! ## The chain -/

/-- The loop over the record sets; the dictionary of the links is the list of its entries. -/
def collectLinks : List (RRset Name Rdata) → List (Text × Text) →
    Except (ChainError Error) (List (Text × Text))
  | [], links => .ok links
  | rrset :: rest, links =>
    if rrset.rdtype ≠ cname then collectLinks rest links
    else match rrset.records with
      | [record] =>
        let owner := codec.nameText rrset.name
        match codec.recordText record with
        | .error error => .error (.library error)
        | .ok target =>
          if owner ∈ links.map Prod.fst then
            .error (.policyRejection "DNS CNAME chain contains duplicate owners")
          else collectLinks rest (links ++ [(owner, target)])
      | _ => .error (.policyRejection "DNS CNAME chain is ambiguous")

/-- `_canonical_cname_chain`. -/
def canonicalCnameChain (answer : Answer Name Rdata) (host : String) :
    Except (ChainError Error) (List Text) :=
  match collectLinks codec answer.answer [] with
  | .error error => .error error
  | .ok links =>
    match codec.fromText host with
    | .error error => .error (.library error)
    | .ok start =>
      match walk links ∅ start with
      | none => .error (.policyRejection "DNS CNAME chain contains a cycle")
      | some (chain, visited, current) =>
        if visited.card ≠ links.length then
          .error (.policyRejection "DNS CNAME answer contains an unrelated chain")
        else if current ≠ codec.nameText answer.canonicalName then
          .error (.policyRejection "DNS CNAME chain changed during resolution")
        else .ok chain

/-! ## The links of an answer -/

/-- The record set is a single CNAME record that gives the link. -/
structure Gives (rrset : RRset Name Rdata) (link : Text × Text) : Prop where
  owner : codec.nameText rrset.name = link.1
  target : ∃ record, rrset.records = [record] ∧ codec.recordText record = .ok link.2

/-- Every CNAME record set of the answer has exactly one record, and these are their links. -/
def LinksOf (rrsets : List (RRset Name Rdata)) (links : List (Text × Text)) : Prop :=
  List.Forall₂ (Gives codec) (rrsets.filter (·.rdtype = cname)) links

/-- The texts that the answer and the host are read from are names. -/
def Named (answer : Answer Name Rdata) (host : String) : Prop :=
  (∀ rrset ∈ answer.answer, ∀ record ∈ rrset.records, ∃ text, codec.recordText record = .ok text) ∧
    ∃ start, codec.fromText host = .ok start

variable {codec} {rrsets : List (RRset Name Rdata)} {links links' : List (Text × Text)}
  {answer : Answer Name Rdata} {host : String} {chain : List Text}

/-- **The links that are collected.** They are those of the record sets, behind what there is already,
and their owners are new and distinct. -/
theorem collectLinks_ok_iff (hnodup : (links.map Prod.fst).Nodup) :
    collectLinks codec rrsets links = .ok links' ↔
      ∃ new, LinksOf codec rrsets new ∧ links' = links ++ new ∧ (links'.map Prod.fst).Nodup := by
  induction rrsets generalizing links with
  | nil =>
      constructor
      · intro h
        obtain rfl := Except.ok.inj h
        exact ⟨[], .nil, (List.append_nil _).symm, hnodup⟩
      · rintro ⟨new, hnew, rfl, -⟩
        cases hnew
        exact congrArg Except.ok (List.append_nil _).symm
  | cons rrset rest ih =>
      unfold collectLinks
      by_cases htype : rrset.rdtype = cname
      · have hfilter : (rrset :: rest).filter (·.rdtype = cname) =
            rrset :: rest.filter (·.rdtype = cname) :=
          List.filter_cons_of_pos (decide_eq_true htype)
        have hinvert {new : List (Text × Text)} (hnew : LinksOf codec (rrset :: rest) new) :
            ∃ link new', new = link :: new' ∧ Gives codec rrset link ∧ LinksOf codec rest new' := by
          unfold LinksOf at hnew
          rw [hfilter] at hnew
          cases hnew with
          | cons hgives hrest => exact ⟨_, _, rfl, hgives, hrest⟩
        rw [if_neg (not_not.2 htype)]
        by_cases hsingle : ∃ record, rrset.records = [record]
        · obtain ⟨record, hrecord⟩ := hsingle
          rw [hrecord]
          dsimp only
          cases htext : codec.recordText record with
          | error error =>
              refine iff_of_false nofun ?_
              rintro ⟨new, hnew, -, -⟩
              obtain ⟨link, new', -, hgives, -⟩ := hinvert hnew
              obtain ⟨other, hother, htarget⟩ := hgives.target
              obtain rfl := List.head_eq_of_cons_eq (hrecord.symm.trans hother)
              cases htext.symm.trans htarget
          | ok target =>
              have hgives : Gives codec rrset (codec.nameText rrset.name, target) :=
                ⟨rfl, record, hrecord, htext⟩
              have hunique {link : Text × Text} (hlink : Gives codec rrset link) :
                  link = (codec.nameText rrset.name, target) := by
                obtain ⟨other, hother, htarget⟩ := hlink.target
                obtain rfl := List.head_eq_of_cons_eq (hrecord.symm.trans hother)
                exact Prod.ext hlink.owner.symm (Except.ok.inj (htarget.symm.trans htext))
              dsimp only
              split
              · rename_i hmem
                refine iff_of_false nofun ?_
                rintro ⟨new, hnew, rfl, hdistinct⟩
                obtain ⟨link, new', rfl, hlink, -⟩ := hinvert hnew
                rw [hunique hlink, List.map_append, List.nodup_append] at hdistinct
                exact hdistinct.2.2 _ hmem _ List.mem_cons_self rfl
              · rename_i hnew
                have hlinks : ((links ++ [(codec.nameText rrset.name, target)]).map Prod.fst).Nodup := by
                  rw [List.map_append]
                  refine List.nodup_append.2 ⟨hnodup, List.nodup_singleton _, ?_⟩
                  intro owner howner owner' hsame heq
                  rw [heq, List.mem_singleton.1 hsame] at howner
                  exact hnew howner
                rw [ih hlinks]
                constructor
                · rintro ⟨new, hrest, rfl, hdistinct⟩
                  refine ⟨(codec.nameText rrset.name, target) :: new, ?_, ?_, hdistinct⟩
                  · unfold LinksOf
                    rw [hfilter]
                    exact .cons hgives hrest
                  · rw [List.append_assoc, List.singleton_append]
                · rintro ⟨new, hall, rfl, hdistinct⟩
                  obtain ⟨link, new', rfl, hlink, hrest⟩ := hinvert hall
                  obtain rfl := hunique hlink
                  refine ⟨new', hrest, ?_, hdistinct⟩
                  rw [List.append_assoc, List.singleton_append]
        · have hrejected : (match rrset.records with
              | [record] =>
                let owner := codec.nameText rrset.name
                match codec.recordText record with
                | .error error => .error (.library error)
                | .ok target =>
                  if owner ∈ links.map Prod.fst then
                    .error (.policyRejection "DNS CNAME chain contains duplicate owners")
                  else collectLinks codec rest (links ++ [(owner, target)])
              | _ => .error (.policyRejection "DNS CNAME chain is ambiguous")) =
              Except.error (.policyRejection "DNS CNAME chain is ambiguous") := by
            split
            · rename_i record hrecord
              exact absurd ⟨record, hrecord⟩ hsingle
            · rfl
          rw [hrejected]
          refine iff_of_false nofun ?_
          rintro ⟨new, hnew, -, -⟩
          obtain ⟨link, new', -, hgives, -⟩ := hinvert hnew
          obtain ⟨record, hrecord, -⟩ := hgives.target
          exact hsingle ⟨record, hrecord⟩
      · have hfilter : (rrset :: rest).filter (·.rdtype = cname) = rest.filter (·.rdtype = cname) :=
          List.filter_cons_of_neg (by simpa using htype)
        rw [if_pos htype, ih hnodup]
        unfold LinksOf
        rw [hfilter]

variable (codec) in
/-- The links are one path from the host to the canonical name of the resolver, and the chain is what
comes after the host. -/
structure IsChain (answer : Answer Name Rdata) (host : String) (chain : List Text) : Prop where
  path : ∃ start links, codec.fromText host = .ok start ∧ LinksOf codec answer.answer links ∧
    (links.map Prod.fst).Nodup ∧ Covers links start chain ∧
    last start chain = codec.nameText answer.canonicalName

/-- From none, exactly the links of the record sets are collected. -/
theorem collectLinks_nil_ok_iff : collectLinks codec rrsets [] = .ok links ↔
    LinksOf codec rrsets links ∧ (links.map Prod.fst).Nodup := by
  have hempty : (([] : List (Text × Text)).map Prod.fst).Nodup := List.nodup_nil
  rw [collectLinks_ok_iff hempty]
  constructor
  · rintro ⟨new, hnew, rfl, hdistinct⟩
    exact ⟨hnew, hdistinct⟩
  · rintro ⟨hnew, hdistinct⟩
    exact ⟨links, hnew, rfl, hdistinct⟩

/-- A record that cannot be read is where the library raises. -/
theorem exists_of_collectLinks_library {error : Error}
    (h : collectLinks codec rrsets links = .error (.library error)) :
    ∃ rrset ∈ rrsets, ∃ record ∈ rrset.records, codec.recordText record = .error error := by
  induction rrsets generalizing links with
  | nil => cases h
  | cons rrset rest ih =>
      have hrest {links : List (Text × Text)}
          (h : collectLinks codec rest links = .error (.library error)) :
          ∃ other ∈ rrset :: rest, ∃ record ∈ other.records,
            codec.recordText record = .error error := by
        obtain ⟨other, hother, hrecord⟩ := ih h
        exact ⟨other, List.mem_cons_of_mem _ hother, hrecord⟩
      unfold collectLinks at h
      split at h
      · exact hrest h
      · split at h
        · rename_i record hrecord
          split at h
          · rename_i hfailed
            cases h
            exact ⟨rrset, List.mem_cons_self, record, hrecord ▸ List.mem_cons_self, hfailed⟩
          · dsimp only at h
            split at h
            · cases h
            · exact hrest h
        · cases h

/-- **CNAME chains.** For every answer and host a chain is returned exactly if every CNAME record set
has one record, no owner occurs twice, and the links form one path without repetition that starts at the
host, uses every link and ends at the canonical name; any other links are rejected. -/
theorem canonicalCnameChain_iff (codec : NameCodec Name Rdata Text Error)
    (answer : Answer Name Rdata) (host : String) :
    (∀ chain, canonicalCnameChain codec answer host = .ok chain ↔
      IsChain codec answer host chain) ∧
    (Named codec answer host → (∀ chain, ¬ IsChain codec answer host chain) →
      ∃ message, canonicalCnameChain codec answer host = .error (.policyRejection message)) := by
  have hiff (chain : List Text) : canonicalCnameChain codec answer host = .ok chain ↔
      IsChain codec answer host chain := by
    unfold canonicalCnameChain
    constructor
    · intro h
      split at h
      · cases h
      · rename_i links hcollect
        obtain ⟨hlinks, hdistinct⟩ := collectLinks_nil_ok_iff.1 hcollect
        split at h
        · cases h
        · rename_i start hstart
          split at h
          · cases h
          · rename_i chain' visited current hwalk
            obtain ⟨hfollow, howners, -, rfl, rfl⟩ := walk_eq_some_iff.1 hwalk
            split_ifs at h with hcard hlast
            cases h
            rw [Finset.empty_union, List.toFinset_card_of_nodup howners] at hcard
            exact ⟨start, _, hstart, hlinks, hdistinct,
              (covers_iff hdistinct).2 ⟨hfollow, howners, not_not.1 hcard⟩, not_not.1 hlast⟩
    · rintro ⟨start, links, hstart, hlinks, hdistinct, hcovers, hlast⟩
      have hcollect : collectLinks codec answer.answer [] = .ok links :=
        collectLinks_nil_ok_iff.2 ⟨hlinks, hdistinct⟩
      obtain ⟨hwalk, howners, hlength⟩ := (covers_iff hdistinct).1 hcovers
      have hall : walk links ∅ start =
          some (chain, ∅ ∪ (owners start chain).toFinset, last start chain) :=
        walk_eq_some_iff.2 ⟨hwalk, howners, Finset.disjoint_empty_right _, rfl, rfl⟩
      rw [hcollect]
      dsimp only
      rw [hstart]
      dsimp only
      rw [hall]
      dsimp only
      rw [Finset.empty_union, List.toFinset_card_of_nodup howners, if_neg (not_not.2 hlength),
        if_neg (not_not.2 hlast)]
  refine ⟨hiff, fun hnamed hnone => ?_⟩
  cases houtcome : canonicalCnameChain codec answer host with
  | ok chain => exact absurd ((hiff chain).1 houtcome) (hnone chain)
  | error error =>
      cases error with
      | policyRejection message => exact ⟨message, rfl⟩
      | library error =>
          unfold canonicalCnameChain at houtcome
          split at houtcome
          · rename_i error' hcollect
            cases houtcome
            obtain ⟨rrset, hrrset, record, hrecord, hfailed⟩ := exists_of_collectLinks_library hcollect
            obtain ⟨text, htext⟩ := hnamed.1 rrset hrrset record hrecord
            cases hfailed.symm.trans htext
          · split at houtcome
            · rename_i error' hfailed
              obtain ⟨start, hstart⟩ := hnamed.2
              cases hfailed.symm.trans hstart
            · split at houtcome
              · cases houtcome
              · split_ifs at houtcome <;> cases houtcome

end

/-! ## An alias, and an answer that leaves a choice -/

/-- Names that are their own texts. -/
def plainNames : NameCodec String String String Unit where
  nameText name := name
  recordText record := .ok record
  fromText text := .ok text

/-- An alias for one name is followed, and an alias for two is rejected. -/
theorem canonicalCnameChain_iff_alias :
    canonicalCnameChain plainNames ⟨[⟨"www", cname, ["host"]⟩, ⟨"host", 1, ["192.0.2.1"]⟩], "host"⟩
      "www" = .ok ["host"] ∧
    ∃ message, canonicalCnameChain plainNames ⟨[⟨"www", cname, ["host", "other"]⟩], "host"⟩ "www" =
      .error (.policyRejection message) := by
  refine ⟨((canonicalCnameChain_iff plainNames _ _).1 _).2 ⟨"www", [("www", "host")], rfl, ?_, ?_, ?_,
    rfl⟩, (canonicalCnameChain_iff plainNames _ _).2 ⟨fun _ _ record _ => ⟨record, rfl⟩, "www", rfl⟩ ?_⟩
  · exact .cons ⟨rfl, "host", rfl, rfl⟩ .nil
  · exact List.nodup_singleton _
  · exact ⟨by decide, List.Perm.refl _⟩
  · rintro chain ⟨start, links, -, hlinks, -⟩
    cases hlinks with
    | cons hgives _ =>
        obtain ⟨record, hrecord, -⟩ := hgives.target
        cases hrecord

end NplgMcp.Network
