import NplgMcp.Search.ItemPage
import NplgMcp.Search.Pagination

/-!
# Items and their pages

What holds of every record that `parse_item_page` returns, whatever the tree: it has the handle that
was asked for and that the page gives itself, its bitstreams are the links of the container to files
of that handle, and its fields are those of the rows of metadata. `parseItemPage_bound` states this;
the rows come first, since tables can be nested in tables.
-/

open Library

namespace NplgMcp

/-! ## Places in a tree -/

section Places

variable {tag : Tag}

mutual

/-- A tag of a node is at the place of the node or below it. -/
theorem path_of_mem_tagsAt {path : List ℕ} {above : List HtmlElement}
    {node : HtmlNode AttributeValue} (h : tag ∈ node.tagsAt path above) :
    ∃ front, tag.path = front ++ path := by
  cases node with
  | text data => simp [HtmlNode.tagsAt] at h
  | element name slash attrs contents =>
      rw [HtmlNode.tagsAt, List.mem_cons] at h
      rcases h with rfl | h
      · exact ⟨[], rfl⟩
      · obtain ⟨front, index, -, hpath⟩ := path_of_mem_tagsFrom h
        exact ⟨front ++ [index], by rw [hpath, List.append_assoc, List.singleton_append]⟩

/-- A tag of nodes is below one of them. -/
theorem path_of_mem_tagsFrom {path : List ℕ} {above : List HtmlElement} {first : ℕ}
    {nodes : List (HtmlNode AttributeValue)}
    (h : tag ∈ HtmlNode.tagsFrom path above first nodes) :
    ∃ front index, first ≤ index ∧ tag.path = front ++ index :: path := by
  cases nodes with
  | nil => simp [HtmlNode.tagsFrom] at h
  | cons node rest =>
      rw [HtmlNode.tagsFrom, List.mem_append] at h
      rcases h with h | h
      · obtain ⟨front, hpath⟩ := path_of_mem_tagsAt h
        exact ⟨front, first, le_rfl, hpath⟩
      · obtain ⟨front, index, hindex, hpath⟩ := path_of_mem_tagsFrom h
        exact ⟨front, index, Nat.le_of_succ_le hindex, hpath⟩

end

/-- The tags of a node and of those after it are at different places. -/
theorem disjoint_tagsFrom {path : List ℕ} {above : List HtmlElement} {first : ℕ}
    {node : HtmlNode AttributeValue} {rest : List (HtmlNode AttributeValue)} {other : Tag}
    (h : tag ∈ node.tagsAt (first :: path) above)
    (hother : other ∈ HtmlNode.tagsFrom path above (first + 1) rest) : tag.path ≠ other.path := by
  obtain ⟨front, hpath⟩ := path_of_mem_tagsAt h
  obtain ⟨front', index, hindex, hpath'⟩ := path_of_mem_tagsFrom hother
  intro heq
  rw [hpath, hpath'] at heq
  have hlast := (List.append_inj_right' heq (by simp))
  have hfirst : first = index := (List.cons.inj hlast).1
  omega

mutual

/-- The tags of a node are at places of their own. -/
theorem nodup_tagsAt (path : List ℕ) (above : List HtmlElement) :
    (node : HtmlNode AttributeValue) → ((node.tagsAt path above).map Tag.path).Nodup
  | .text data => by simp [HtmlNode.tagsAt]
  | .element name slash attrs contents => by
      rw [HtmlNode.tagsAt, List.map_cons, List.nodup_cons]
      refine ⟨fun hmem => ?_, nodup_tagsFrom path _ 0 contents⟩
      obtain ⟨tag, htag, hpath⟩ := List.mem_map.1 hmem
      obtain ⟨front, index, -, hbelow⟩ := path_of_mem_tagsFrom htag
      have hlength := congrArg List.length (hpath.symm.trans hbelow)
      simp only [List.length_append, List.length_cons] at hlength
      omega

/-- The tags of nodes are at places of their own. -/
theorem nodup_tagsFrom (path : List ℕ) (above : List HtmlElement) (first : ℕ) :
    (nodes : List (HtmlNode AttributeValue)) →
      ((HtmlNode.tagsFrom path above first nodes).map Tag.path).Nodup
  | [] => by simp [HtmlNode.tagsFrom]
  | node :: rest => by
      rw [HtmlNode.tagsFrom, List.map_append, List.nodup_append]
      refine ⟨nodup_tagsAt _ above node, nodup_tagsFrom path above (first + 1) rest, ?_⟩
      intro place hplace place' hplace' heq
      obtain ⟨tag, htag, rfl⟩ := List.mem_map.1 hplace
      obtain ⟨other, hother, rfl⟩ := List.mem_map.1 hplace'
      exact disjoint_tagsFrom htag hother heq

end

end Places

/-! ## Tags that are taken once -/

section Unseen

variable {seen seen' : List (List ℕ)} {tags tags' : List Tag}

/-- Of the places that have been seen only the set matters. -/
theorem unseen_congr (h : ∀ place, place ∈ seen ↔ place ∈ seen') :
    unseen seen tags = unseen seen' tags := by
  induction tags generalizing seen seen' with
  | nil => rfl
  | cons tag tags ih =>
      simp only [unseen, h tag.path]
      split
      · exact ih h
      · rw [@ih _ (tag.path :: seen') fun place => by simp [h place]]

theorem unseen_append : unseen seen (tags ++ tags') =
    unseen seen tags ++ unseen (tags.map Tag.path ++ seen) tags' := by
  induction tags generalizing seen with
  | nil => rfl
  | cons tag tags ih =>
      simp only [List.cons_append, unseen, List.map_cons]
      split
      next hseen =>
        rw [ih]
        refine congrArg _ (unseen_congr fun place => ?_)
        simp only [List.mem_append, List.mem_cons]
        grind
      next =>
        rw [ih, List.cons_append]
        refine congrArg _ (congrArg _ (unseen_congr fun place => ?_))
        simp only [List.mem_append, List.mem_cons]
        grind

/-- New tags are all taken. -/
theorem unseen_of_nodup (hnodup : (tags.map Tag.path).Nodup) (h : ∀ tag ∈ tags, tag.path ∉ seen) :
    unseen seen tags = tags := by
  induction tags generalizing seen with
  | nil => rfl
  | cons tag tags ih =>
      rw [List.map_cons, List.nodup_cons] at hnodup
      rw [unseen, if_neg (h tag List.mem_cons_self), ih hnodup.2]
      intro other hother hmem
      rcases List.mem_cons.1 hmem with heq | hmem
      · exact hnodup.1 (List.mem_map.2 ⟨other, hother, heq⟩)
      · exact h other (List.mem_cons_of_mem _ hother) hmem

/-- No tag is taken again. -/
theorem unseen_eq_nil (h : ∀ tag ∈ tags, tag.path ∈ seen) : unseen seen tags = [] := by
  induction tags with
  | nil => rfl
  | cons tag tags ih =>
      rw [unseen, if_pos (h tag List.mem_cons_self)]
      exact ih fun other hother => h other (List.mem_cons_of_mem _ hother)

/-- Tags elsewhere may have been seen. -/
theorem unseen_of_elsewhere (h : ∀ tag ∈ tags, ∀ place ∈ seen, tag.path ≠ place) :
    unseen seen tags = unseen [] tags := by
  suffices hgen : ∀ others, unseen (others ++ seen) tags = unseen others tags from hgen []
  induction tags with
  | nil => exact fun _ => rfl
  | cons tag tags ih =>
      intro others
      have htag : tag.path ∉ seen := fun hmem => h tag List.mem_cons_self _ hmem rfl
      have hrest := ih fun other hother => h other (List.mem_cons_of_mem _ hother)
      simp only [unseen, List.mem_append, htag, or_false]
      split
      · exact hrest others
      · rw [← List.cons_append, hrest]

theorem mem_unseen {tag : Tag} (h : tag ∈ unseen seen tags) : tag ∈ tags := by
  induction tags generalizing seen with
  | nil => exact h
  | cons head tags ih =>
      rw [unseen] at h
      split at h
      · exact List.mem_cons_of_mem _ (ih h)
      · rcases List.mem_cons.1 h with rfl | h
        · exact List.mem_cons_self
        · exact List.mem_cons_of_mem _ (ih h)

/-- Each place is taken. -/
theorem path_mem_unseen {tag : Tag} (h : tag ∈ tags) :
    tag.path ∈ seen ∨ tag.path ∈ (unseen seen tags).map Tag.path := by
  induction tags generalizing seen with
  | nil => cases h
  | cons head tags ih =>
      rw [unseen]
      rcases List.mem_cons.1 h with rfl | h
      · split
        next hseen => exact .inl hseen
        next => exact .inr List.mem_cons_self
      · split
        next => exact ih h
        next =>
          rcases @ih (head.path :: seen) h with hseen | hfound
          · rcases List.mem_cons.1 hseen with heq | hseen
            · exact .inr (List.mem_cons.2 (.inl heq))
            · exact .inl hseen
          · exact .inr (List.mem_cons_of_mem _ hfound)

end Unseen

/-! ## The rows of metadata -/

section Rows

variable {tag row : Tag}

mutual

/-- What is below a tag of a node is below the node. -/
theorem mem_tagsAt_of_descendant {path : List ℕ} {above : List HtmlElement}
    {node : HtmlNode AttributeValue} (htag : tag ∈ node.tagsAt path above)
    (hrow : row ∈ tag.descendants) : row ∈ node.tagsAt path above := by
  cases node with
  | text data => simp [HtmlNode.tagsAt] at htag
  | element name slash attrs contents =>
      rw [HtmlNode.tagsAt, List.mem_cons] at htag ⊢
      rcases htag with rfl | htag
      · exact .inr hrow
      · exact .inr (mem_tagsFrom_of_descendant htag hrow)

/-- What is below a tag of nodes is below them. -/
theorem mem_tagsFrom_of_descendant {path : List ℕ} {above : List HtmlElement} {first : ℕ}
    {nodes : List (HtmlNode AttributeValue)} (htag : tag ∈ HtmlNode.tagsFrom path above first nodes)
    (hrow : row ∈ tag.descendants) : row ∈ HtmlNode.tagsFrom path above first nodes := by
  cases nodes with
  | nil => simp [HtmlNode.tagsFrom] at htag
  | cons node rest =>
      rw [HtmlNode.tagsFrom, List.mem_append] at htag ⊢
      rcases htag with htag | htag
      · exact .inl (mem_tagsAt_of_descendant htag hrow)
      · exact .inr (mem_tagsFrom_of_descendant htag hrow)

end

theorem mem_visitedRows {tags : List Tag} : row ∈ visitedRows tags ↔
    ∃ table ∈ tags, isMetadataTable table = true ∧ row ∈ table.descendants ∧
      row.isNamed "tr" = true := by
  simp [visitedRows, Tag.findAll, and_assoc]

theorem visitedRows_append {tags tags' : List Tag} :
    visitedRows (tags ++ tags') = visitedRows tags ++ visitedRows tags' := by
  simp [visitedRows]

mutual

/-- The rows below a node are taken in document order. -/
theorem sublist_tagsAt (path : List ℕ) (above : List HtmlElement) :
    (node : HtmlNode AttributeValue) →
      (unseen [] (visitedRows (node.tagsAt path above))).Sublist (node.tagsAt path above)
  | .text data => by simp [HtmlNode.tagsAt, visitedRows, unseen]
  | .element name slash attrs contents => by
      have hbelow := sublist_tagsFrom path (⟨name, attrs, contents⟩ :: above) 0 contents
      have hnodup := nodup_tagsFrom path (⟨name, attrs, contents⟩ :: above) 0 contents
      rw [HtmlNode.tagsAt]
      generalize htags : HtmlNode.tagsFrom path (⟨name, attrs, contents⟩ :: above) 0 contents = tags at *
      rw [← List.singleton_append, visitedRows_append]
      cases htable : isMetadataTable ⟨⟨name, attrs, contents⟩, path, above⟩ with
      | false =>
          refine (List.Sublist.trans ?_ hbelow).trans (List.sublist_append_right _ _)
          simp [visitedRows, htable]
      | true =>
          -- The table has all rows below it; those of the tables inside are among them.
          have hrows : visitedRows [⟨⟨name, attrs, contents⟩, path, above⟩] =
              tags.filter (·.isNamed "tr") := by
            simp only [visitedRows, List.filter_cons, htable, if_true, List.filter_nil,
              List.flatMap_singleton]
            exact congrArg _ htags
          rw [hrows, unseen_append, unseen_of_nodup (hnodup.sublist (List.filter_sublist.map _))
            fun _ _ => List.not_mem_nil, unseen_eq_nil, List.append_nil]
          · exact List.filter_sublist.trans (List.sublist_append_right _ _)
          · intro row hrow
            obtain ⟨table, hmem, -, hrow, hname⟩ := mem_visitedRows.1 hrow
            rw [← htags] at hmem
            have hmem := mem_tagsFrom_of_descendant hmem hrow
            rw [htags] at hmem
            exact List.mem_append_left _ (List.mem_map_of_mem (List.mem_filter.2 ⟨hmem, hname⟩))

/-- The rows below nodes are taken in document order. -/
theorem sublist_tagsFrom (path : List ℕ) (above : List HtmlElement) (first : ℕ) :
    (nodes : List (HtmlNode AttributeValue)) →
      (unseen [] (visitedRows (HtmlNode.tagsFrom path above first nodes))).Sublist
        (HtmlNode.tagsFrom path above first nodes)
  | [] => by simp [HtmlNode.tagsFrom, visitedRows, unseen]
  | node :: rest => by
      have helsewhere : unseen ((visitedRows (node.tagsAt (first :: path) above)).map Tag.path)
          (visitedRows (HtmlNode.tagsFrom path above (first + 1) rest)) =
            unseen [] (visitedRows (HtmlNode.tagsFrom path above (first + 1) rest)) := by
        refine unseen_of_elsewhere fun row hrow place hplace => ?_
        obtain ⟨other, hother, rfl⟩ := List.mem_map.1 hplace
        obtain ⟨table, htable, -, hrow, -⟩ := mem_visitedRows.1 hrow
        obtain ⟨table', htable', -, hother, -⟩ := mem_visitedRows.1 hother
        exact (disjoint_tagsFrom (mem_tagsAt_of_descendant htable' hother)
          (mem_tagsFrom_of_descendant htable hrow)).symm
      rw [HtmlNode.tagsFrom, visitedRows_append, unseen_append, List.append_nil, helsewhere]
      exact (sublist_tagsAt _ above node).append (sublist_tagsFrom path above (first + 1) rest)

end

/-- The rows of a container are rows of its tables of metadata, all of them in document order and each
of them once. -/
structure RowsOf (container : Tag) (rows : List MetadataRow) : Prop where
  ordered : (rows.map MetadataRow.row).Sublist container.descendants
  once : (rows.map fun row => row.row.path).Nodup
  all : ∀ place, place ∈ rows.map (fun row => row.row.path) ↔
    ∃ table ∈ container.descendants, isMetadataTable table = true ∧
      ∃ row ∈ table.descendants, row.isNamed "tr" = true ∧ row.path = place
  cells : ∀ row ∈ rows, row.cells = row.row.findChildren (·.isNamed "td")

theorem rowsOf_metadataRows (container : Tag) : RowsOf container (metadataRows container) := by
  have hrows : (metadataRows container).map MetadataRow.row =
      unseen [] (visitedRows container.descendants) := by
    simp [metadataRows, Function.comp_def]
  have hplaces : (metadataRows container).map (fun row => row.row.path) =
      (unseen [] (visitedRows container.descendants)).map Tag.path := by
    rw [← hrows, List.map_map]
    rfl
  have hordered : (unseen [] (visitedRows container.descendants)).Sublist container.descendants :=
    sublist_tagsFrom _ _ _ _
  refine ⟨hrows ▸ hordered, ?_, fun place => ⟨fun h => ?_, ?_⟩, fun row hrow => ?_⟩
  · rw [hplaces]
    exact (nodup_tagsFrom _ _ _ _).sublist (hordered.map _)
  · rw [hplaces] at h
    obtain ⟨row, hrow, rfl⟩ := List.mem_map.1 h
    obtain ⟨table, htable, hmetadata, hrow, hname⟩ := mem_visitedRows.1 (mem_unseen hrow)
    exact ⟨table, htable, hmetadata, row, hrow, hname, rfl⟩
  · rintro ⟨table, htable, hmetadata, row, hrow, hname, rfl⟩
    rw [hplaces]
    rcases @path_mem_unseen [] _ _
      (mem_visitedRows.2 ⟨table, htable, hmetadata, hrow, hname⟩) with hseen | hfound
    · cases hseen
    · exact hfound
  · obtain ⟨found, -, rfl⟩ := List.mem_map.1 hrow
    rfl

end Rows

/-- The fields that are read are those of the rows, in order. -/
theorem readFields_ok {field : MetadataRow → Option RawMetadataField} {rows : List MetadataRow}
    {fields result : List RawMetadataField} (h : readFields field rows fields = .ok result) :
    result = fields ++ rows.filterMap field := by
  induction rows generalizing fields with
  | nil =>
      rw [List.filterMap_nil, List.append_nil]
      exact (Except.ok.inj h).symm
  | cons row rows ih =>
      rw [readFields] at h
      split at h
      next hfield => rw [ih h, List.filterMap_cons_none hfield]
      next found hfield =>
        split at h
        next => cases h
        next => rw [ih h, List.filterMap_cons_some hfield, List.append_assoc, List.singleton_append]

/-! ## The handle of a page -/

theorem mem_of_firstHandle {attempts : List (Except Raised String)} {handle : String}
    (h : firstHandle attempts = .ok (some handle)) : .ok handle ∈ attempts := by
  fun_induction firstHandle attempts with
  | case1 => cases h
  | case2 found rest =>
      cases h
      exact List.mem_cons_self
  | case3 error rest ih => exact List.mem_cons_of_mem _ (ih h)
  | case4 rest => cases h

namespace ItemPlatform

variable {py : ItemPlatform} {handle url : String}

/-- A page gives itself a handle: the one of its identifier in the JSPUI layout, and one of a `code`
element or of a link to an item in the other. -/
inductive Names (py : ItemPlatform) : ItemContainer → String → Prop
  | identifier {container : Tag} {variant : SearchVariant} {code : Tag} {handle : String}
      (parsed : py.parseHandleInput (py.tagText code) = .ok handle) :
      Names py ⟨container, variant, some code⟩ handle
  | code {container : Tag} {variant : SearchVariant} {code : Tag} {handle : String}
      (found : code ∈ container.findAll (·.isNamed "code"))
      (parsed : py.parseHandleInput (py.tagText code) = .ok handle) :
      Names py ⟨container, variant, none⟩ handle
  | link {container : Tag} {variant : SearchVariant} {link : Tag} {absolute handle : String}
      (found : link ∈ container.findAll (·.isNamed "a"))
      (joined : py.urljoin nplgOrigin (link.attributeText "href") = some absolute)
      (parsed : py.parseHandleInput absolute = .ok handle) :
      Names py ⟨container, variant, none⟩ handle

theorem names_of_pageHandle {found : ItemContainer} (h : py.pageHandle found = .ok (some handle)) :
    py.Names found handle := by
  obtain ⟨container, variant, identity⟩ := found
  cases identity with
  | some code => exact .identifier (List.mem_singleton.1 (mem_of_firstHandle h)).symm
  | none =>
      obtain ⟨found, hcodes, h⟩ := ok_of_bind h
      cases found with
      | some found =>
          obtain rfl : found = handle := by cases h; rfl
          obtain ⟨code, hcode, hparsed⟩ := List.mem_map.1 (mem_of_firstHandle hcodes)
          exact .code hcode hparsed
      | none =>
          obtain ⟨link, hlink, hparsed⟩ := List.mem_map.1 (mem_of_firstHandle h)
          obtain ⟨absolute, hjoin, hparsed⟩ := ok_of_bind hparsed
          obtain ⟨hmem, hnamed⟩ := List.mem_filter.1 hlink
          simp only [Bool.and_eq_true] at hnamed
          exact .link (List.mem_filter.2 ⟨hmem, hnamed.1.1⟩) (WebPlatform.urljoin_of_join hjoin) hparsed

/-! ## The bitstreams of a page -/

/-- A URL that is accepted and leads to a file of the handle: no segment of its path leads
elsewhere. -/
structure IsFileOf (py : ItemPlatform) (handle url : String) : Prop where
  accepted : py.validateUpstreamUrl url = .ok url
  below : ∃ parts, py.urlsplit url = some parts ∧
    Text.startsWith parts.path ("/bitstream/" ++ handle ++ "/") = true ∧
      ∀ segment ∈ parts.path.toList.splitOn '/', unsafeSegment (unquoteToBytes segment) = false

/-- The path of an accepted URL has no segment that leads elsewhere. -/
theorem safe_of_validateUpstreamUrl {parts : SplitUrl} {target : String}
    (h : py.validateUpstreamUrl url = .ok target) (hparts : py.urlsplit url = some parts) :
    ∀ segment ∈ parts.path.toList.splitOn '/', unsafeSegment (unquoteToBytes segment) = false := by
  unfold WebPlatform.validateUpstreamUrl at h
  rw [hparts] at h
  split at h
  · cases h
  · dsimp only at h
    split at h
    · cases h
    · split at h
      · cases h
      · split at h
        · cases h
        next hsafe =>
          intro segment hsegment
          rw [List.any_eq_true] at hsafe
          exact Bool.eq_false_iff.2 fun hunsafe => hsafe ⟨segment, hsegment, hunsafe⟩

theorem bitstreamUrl_ok {link : Tag} {absolute path : String}
    (h : py.bitstreamUrl link handle url = .ok (absolute, path)) :
    py.urljoin url (link.attributeText "href") = some absolute ∧ py.IsFileOf handle absolute := by
  obtain ⟨joined, hjoin, h⟩ := ok_of_bind h
  split at h
  · cases h
  · cases h
  next target hvalid =>
    obtain ⟨parts, hparts, h⟩ := ok_of_bind h
    split at h
    next hstart =>
      obtain ⟨rfl, rfl⟩ : joined = absolute ∧ parts.path = path := by
        cases h
        exact ⟨rfl, rfl⟩
      obtain rfl := WebPlatform.eq_of_validateUpstreamUrl hvalid
      have hsplit := WebPlatform.urlsplit_of_split hparts
      exact ⟨WebPlatform.urljoin_of_join hjoin, hvalid, parts, hsplit, hstart,
        safe_of_validateUpstreamUrl hvalid hsplit⟩
    next => cases h

/-- A bitstream is that of its link. -/
theorem bitstream_ok {link : Tag} {absolute path : String} {found : Bitstream}
    (h : py.bitstream link handle absolute path = .ok found) :
    found.handle = handle ∧ found.sourceUrl = absolute := by
  unfold bitstream at h
  obtain ⟨size, -, h⟩ := ok_of_bind h
  cases h
  exact ⟨rfl, rfl⟩

theorem ok_of_itemRaising {α : Type} {x : Except Raised α} {value : α}
    (h : itemRaising x = .ok value) : x = .ok value := by
  cases x with
  | error error => cases h
  | ok found => exact congrArg _ (Except.ok.inj h)

/-- What the loop over the links makes of them: the new URLs are added once, in order. -/
structure Collected (py : ItemPlatform) (handle url : String) (links : List Tag)
    (before result : List Bitstream) : Prop where
  bound : before.length ≤ maxBitstreams → result.length ≤ maxBitstreams
  handles : ∀ found ∈ result, found ∈ before ∨ found.handle = handle
  urls : ∃ urls, List.Forall₂ (fun link absolute =>
      py.urljoin url (link.attributeText "href") = some absolute ∧ py.IsFileOf handle absolute)
      links urls ∧
    result.map Bitstream.sourceUrl = before.map Bitstream.sourceUrl ++
      (urls.filter (· ∉ before.map Bitstream.sourceUrl)).eraseDups

theorem collected_bitstreamsOf {links : List Tag} {before result : List Bitstream}
    (h : py.bitstreamsOf handle url links before = .ok result) :
    Collected py handle url links before result := by
  induction links generalizing before with
  | nil =>
      obtain rfl := Except.ok.inj h
      exact ⟨id, fun found hfound => .inl hfound, [], .nil, by simp⟩
  | cons link links ih =>
      obtain ⟨⟨absolute, path⟩, hurl, h⟩ := ok_of_bind h
      have hlink := bitstreamUrl_ok (ok_of_itemRaising hurl)
      dsimp only at h
      split at h
      next hseen =>
        obtain ⟨hbound, hhandles, urls, hurls, hresult⟩ := ih h
        refine ⟨hbound, hhandles, absolute :: urls, .cons hlink hurls, ?_⟩
        rw [hresult, List.filter_cons_of_neg (by simpa using hseen)]
      next hnew =>
        split at h
        next => cases h
        next hroom =>
          obtain ⟨found, hfound, h⟩ := ok_of_bind h
          obtain ⟨hbound, hhandles, urls, hurls, hresult⟩ := ih h
          obtain ⟨hhandle, hsource⟩ := bitstream_ok hfound
          refine ⟨fun _ => hbound ?_, fun other hother => ?_, absolute :: urls, .cons hlink hurls, ?_⟩
          · rw [List.length_append, List.length_singleton]
            omega
          · rcases hhandles other hother with hmem | hmem
            · rcases List.mem_append.1 hmem with hmem | hmem
              · exact .inl hmem
              · exact .inr (List.mem_singleton.1 hmem ▸ hhandle)
            · exact .inr hmem
          · rw [hresult, List.filter_cons_of_pos (by simpa using hnew), List.eraseDups_cons,
              List.filter_filter]
            simp only [List.map_append, List.map_cons, List.map_nil, hsource, List.append_assoc,
              List.singleton_append]
            refine congrArg _ (congrArg _ (congrArg _ (List.filter_congr fun other _ => ?_)))
            by_cases hsame : other = absolute <;> simp [hsame]

theorem nodup_eraseDups (urls : List String) : urls.eraseDups.Nodup := by
  induction hlength : urls.length using Nat.strong_induction_on generalizing urls with
  | _ n ih =>
      cases urls with
      | nil => simp
      | cons head tail =>
          rw [List.eraseDups_cons, List.nodup_cons]
          refine ⟨by simp [List.mem_eraseDups], ih _ ?_ _ rfl⟩
          rw [← hlength, List.length_cons]
          exact Nat.lt_succ_of_le (List.length_filter_le _ _)

/-! ## The record of a page -/

/-- A record is bound to its page: to the handle that was asked for and that the page gives itself, to
the links of the container to files of the handle, and to the rows of metadata. -/
structure BoundTo (py : ItemPlatform) (found : ItemContainer) (expectedHandle url : String)
    (record : DocumentRecord) : Prop where
  asked : py.parseHandleInput expectedHandle = .ok record.handle
  named : py.Names found record.handle
  bound : record.bitstreams.length ≤ 256
  distinct : (record.bitstreams.map Bitstream.sourceUrl).Nodup
  files : ∀ file ∈ record.bitstreams, file.handle = record.handle ∧
    py.IsFileOf record.handle file.sourceUrl
  links : ∃ urls, List.Forall₂ (fun link absolute =>
      py.urljoin url (link.attributeText "href") = some absolute) (bitstreamLinks found.container) urls ∧
    record.bitstreams.map Bitstream.sourceUrl = urls.eraseDups
  restricted : record.restricted = true → record.bitstreams = []
  rows : RowsOf found.container (metadataRows found.container)
  fields : ∃ full, record.rawFields = (metadataRows found.container).filterMap (py.rowField full)

/-- The bitstreams are those of the links, unless access is restricted. -/
theorem collected_parseBitstreams {links : List Tag} {restricted : Bool} {result : List Bitstream}
    (hlinks : restricted = true → links = [])
    (h : py.parseBitstreams links handle url restricted = .ok result) :
    Collected py handle url links [] result ∧ (restricted = true → result = []) := by
  unfold parseBitstreams at h
  split at h
  next hrestricted =>
    obtain rfl := Except.ok.inj h
    rw [hlinks hrestricted]
    exact ⟨collected_bitstreamsOf rfl, fun _ => rfl⟩
  next hopen => exact ⟨collected_bitstreamsOf h, fun hrestricted => absurd hrestricted hopen⟩

theorem bound_of_readItem {document : HtmlDocument} {found : ItemContainer}
    {expectedHandle : String} {record : DocumentRecord}
    (hexpected : py.parseHandleInput expectedHandle = .ok handle)
    (h : py.readItem document found handle url = .ok record) :
    BoundTo py found expectedHandle url record := by
  unfold readItem at h
  obtain ⟨actual, hactual, h⟩ := ok_of_bind h
  dsimp only at h
  split at h
  next => cases h
  next hsame =>
    rw [not_not] at hsame
    subst hsame
    split at h
    next => cases h
    next hunambiguous =>
      obtain ⟨fields, hfields, h⟩ := ok_of_bind h
      split at h
      next => cases h
      next =>
        obtain ⟨collections, -, h⟩ := ok_of_bind h
        obtain ⟨bitstreams, hbitstreams, h⟩ := ok_of_bind h
        cases h
        obtain ⟨hcollected, hrestricted⟩ := collected_parseBitstreams (fun hrestricted => by
          simpa [hrestricted] using hunambiguous) hbitstreams
        obtain ⟨urls, hurls, hsources⟩ := hcollected.urls
        have hsources : bitstreams.map Bitstream.sourceUrl = urls.eraseDups := by
          simpa using hsources
        have hfiles : ∀ absolute ∈ urls, py.IsFileOf handle absolute := by
          intro absolute habsolute
          obtain ⟨index, hindex, rfl⟩ := List.mem_iff_getElem.1 habsolute
          exact ((List.forall₂_iff_get.1 hurls).2 index (hurls.length_eq ▸ hindex) hindex).2
        refine ⟨hexpected, names_of_pageHandle (ok_of_itemRaising hactual),
          hcollected.bound (Nat.zero_le _), ?_, fun file hfile => ⟨?_, ?_⟩,
          ⟨urls, hurls.imp fun _ _ hlink => hlink.1, hsources⟩, hrestricted,
          rowsOf_metadataRows found.container, py.isFull document found.container, ?_⟩
        · exact hsources ▸ nodup_eraseDups urls
        · exact (hcollected.handles file hfile).resolve_left List.not_mem_nil
        · refine hfiles _ (List.mem_eraseDups.1 (hsources ▸ ?_))
          exact List.mem_map_of_mem hfile
        · exact readFields_ok (ok_of_itemRaising hfields)

/-- The URL of an item. -/
def sampleItemUrl : String := nplgOrigin ++ "/handle/1234/5"

/-- The libraries as far as this page depends on them. -/
def sampleItemPlatform : ItemPlatform where
  toWebPlatform := iveriaPlatform
  hexdigest _ := "e9166530668a453403c47fe699fb875e59f9d6efe63274748667bff008f9ccf4"

/-- An item in the XMLUI layout; its file is linked twice. -/
def sampleItemPage : HtmlPage where
  nodes :=
    [tagged "div" [("id", "aspect_artifactbrowser_ItemViewer_div_item-view")]
      [tagged "code" [] [.text "1234/5"],
        tagged "table" [("class", "itemDisplayTable")]
          [tagged "tr" [] [tagged "td" [] [.text "Title"], tagged "td" [] [.text "Iveria"]]],
        tagged "a" [("href", "/bitstream/1234/5/1/a.pdf")] [.text "a"],
        tagged "a" [("href", "/bitstream/1234/5/1/a.pdf")] [.text "b"]]]
  bytes := 300
  wellFormed := by decide +kernel

/-- What is made of its text. -/
def sampleItemDocument : HtmlDocument where
  preflight := preflightHtml sampleItemPage sampleItemUrl fun _ => false
  tree := sampleItemPage.soup soupLists ["html", "body"]
  comments _ := []

/-- Its record. -/
def sampleItemRecord : DocumentRecord where
  handle := "1234/5"
  canonicalUrl := sampleItemUrl
  title := "Iveria"
  rawFields := [{ key := "dc.title", value := "Iveria" }]
  bitstreams :=
    [{ bitstreamId := "bit_e9166530668a453403c47fe6"
       handle := "1234/5"
       filename := "a"
       sourceUrl := nplgOrigin ++ "/bitstream/1234/5/1/a.pdf" }]

end ItemPlatform

end NplgMcp
