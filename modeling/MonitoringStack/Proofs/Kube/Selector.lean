import MonitoringStack.Proofs.Cleanup.Batch
import MonitoringStack.Proofs.Kube.Query

namespace MonitoringStack.Kube

namespace Selector

/-- A text without the marks that divide a query. -/
def Unmarked (text : String) : Prop := ',' ∉ text.toList ∧ '=' ∉ text.toList

instance (text : String) : Decidable (Unmarked text) := inferInstanceAs (Decidable (_ ∧ _))

def Plain (s : Selector) : Prop := ∀ r ∈ s.requirements.entries, Unmarked r.1 ∧ Unmarked r.2

instance (s : Selector) : Decidable s.Plain :=
  inferInstanceAs (Decidable (∀ r ∈ s.requirements.entries, Unmarked r.1 ∧ Unmarked r.2))

def requirement? (part : List Char) : Option (String × String) :=
  match part.splitOn '=' with
  | [key, value] => some (String.ofList key, String.ofList value)
  | _ => none

def stated? (query : String) : Option (List (String × String)) :=
  if query = "" then some [] else (query.toList.splitOn ',').mapM requirement?

theorem requirement?_eq {r : String × String} (hkey : Unmarked r.1) (hvalue : Unmarked r.2) :
    requirement? (r.1 ++ "=" ++ r.2).toList = some r := by
  have hparts : (r.1 ++ "=" ++ r.2).toList = ['='].intercalate [r.1.toList, r.2.toList] := by
    simp [List.intercalate]
  have hmarks : ∀ part ∈ [r.1.toList, r.2.toList], '=' ∉ part := by
    simp [hkey.2, hvalue.2]
  rw [requirement?, hparts, List.splitOn_intercalate '=' hmarks (by simp)]
  simp

theorem stated?_query {s : Selector} (hs : s.Plain) :
    stated? s.query = some s.requirements.entries := by
  let part (r : String × String) : List Char := (r.1 ++ "=" ++ r.2).toList
  have hquery : s.query.toList = [','].intercalate (s.requirements.entries.map part) := by
    rw [query, String.toList_intercalate, List.map_map]
    rfl
  cases hentries : s.requirements.entries with
  | nil => simp [stated?, query, hentries]
  | cons r rest =>
    have hparts (rs : List (String × String))
        (h : ∀ r ∈ rs, Unmarked r.1 ∧ Unmarked r.2) :
        (rs.map part).mapM requirement? = some rs := by
      induction rs with
      | nil => rfl
      | cons r rs ih =>
        obtain ⟨⟨hkey, hvalue⟩, hrs⟩ := List.forall_mem_cons.1 h
        rw [List.map_cons, List.mapM_cons, requirement?_eq hkey hvalue, ih hrs]
        rfl
    have hmarks : ∀ p ∈ (r :: rest).map part, ',' ∉ p := by
      refine List.forall_mem_map.2 fun r hr => ?_
      obtain ⟨hkey, hvalue⟩ := hs r (hentries ▸ hr)
      simp [part, hkey.1, hvalue.1]
    have hsplit : s.query.toList.splitOn ',' = (r :: rest).map part := by
      rw [hquery, hentries]
      exact List.splitOn_intercalate ',' hmarks (by simp)
    have hne : s.query ≠ "" := by
      intro hempty
      rw [hempty] at hsplit
      simp [part] at hsplit
    rw [stated?, if_neg hne, hsplit]
    exact hparts _ (hentries ▸ hs)

theorem query_inj {s t : Selector} (hs : s.Plain) (ht : t.Plain) : s.query = t.query ↔ s = t := by
  constructor
  · intro h
    have hentries : s.requirements.entries = t.requirements.entries := by
      have hstated : some s.requirements.entries = some t.requirements.entries := by
        rw [← stated?_query hs, h, stated?_query ht]
      exact Option.some.inj hstated
    cases s
    cases t
    exact congrArg Selector.mk (KeyMap.ext hentries)
  · rintro rfl
    rfl

def ofCalls (calls : List (String × String)) : Selector :=
  calls.foldl (fun s r => s.and r.1 r.2) everything

theorem requirements_ofCalls (calls : List (String × String)) :
    (ofCalls calls).requirements = KeyMap.ofList calls := by
  have hfold (s : Selector) : (calls.foldl (fun s r => s.and r.1 r.2) s).requirements =
      calls.foldl (fun m r => m.insert r.1 r.2) s.requirements := by
    induction calls generalizing s with
    | nil => rfl
    | cons r calls ih => exact ih _
  exact hfold everything

/-- The value that was last asked for under a key. -/
def last? (calls : List (String × String)) (key : String) : Option String :=
  ((calls.filter (·.1 = key)).getLast?).map (·.2)

theorem get?_ofCalls (calls : List (String × String)) (key : String) :
    (ofCalls calls).requirements.get? key = last? calls key := by
  rw [requirements_ofCalls, KeyMap.get?_ofList, last?, ← List.head?_reverse, ← List.filter_reverse,
    List.head?_filter]

theorem ofCalls_congr {calls calls' : List (String × String)}
    (h : ∀ key, calls.filter (·.1 = key) = calls'.filter (·.1 = key)) :
    ofCalls calls = ofCalls calls' := by
  apply congrArg Selector.mk
  apply KeyMap.ext_get?
  intro key
  calc (ofCalls calls).requirements.get? key
    _ = last? calls key := get?_ofCalls calls key
    _ = last? calls' key := by rw [last?, h, last?]
    _ = (ofCalls calls').requirements.get? key := (get?_ofCalls calls' key).symm

/-- Whether labels meet requirements, each by itself. -/
def Meets (labels : Option Labels) (rs : List (String × String)) : Prop :=
  ∀ r ∈ rs, ∃ m, labels = some m ∧ m.get? r.1 = some r.2

theorem holds_iff {labels : Option Labels} {r : String × String} :
    holds labels r = true ↔ ∃ m, labels = some m ∧ m.get? r.1 = some r.2 := by
  rw [holds, decide_eq_true_iff, Option.bind_eq_some_iff]

theorem meets_iff (s : Selector) (labels : Option Labels) :
    Meets labels s.requirements.entries ↔ s.matches labels = true := by
  rw [«matches», List.all_eq_true]
  exact forall₂_congr fun r _ => holds_iff.symm

instance (labels : Option Labels) (rs : List (String × String)) : Decidable (Meets labels rs) :=
  decidable_of_iff (rs.all (holds labels) = true) <| by
    rw [List.all_eq_true]
    exact forall₂_congr fun r _ => holds_iff

end Selector

section Lists

variable (α : Type) [Resource α] (ns? : Option String)

/-- A collection whose address stands as it is in a request. -/
def Addressable : Prop := ∀ c ∈ (collection α ns?).toList, Http.Target.isPathChar c = true

instance : Decidable (Addressable α ns?) :=
  decidable_of_iff ((collection α ns?).toList.all Http.Target.isPathChar = true) List.all_eq_true

def listQuery (s : Selector) : String :=
  if s.isEmpty then "" else "&labelSelector=" ++ formEncoded s.query

/-- The requirements that a list's query asks for; one without a selector asks for none. -/
def asked? (query : String) : Option (List (String × String)) :=
  match parameter? "labelSelector" query with
  | none => some []
  | some value => (formDecoded? value).bind Selector.stated?

theorem listQuery_chars (s : Selector) :
    ∀ c ∈ (listQuery s).toList, Http.Target.isQueryChar c = true := by
  have hfixed : ∀ c ∈ "&labelSelector=".toList, Http.Target.isQueryChar c = true :=
    List.all_eq_true.1 (by decide +kernel)
  rw [listQuery]
  split
  · simp
  · rw [String.toList_append]
    intro c hc
    rcases List.mem_append.1 hc with hc | hc
    · exact hfixed c hc
    · exact (formEncoded_chars s.query c hc).1

theorem parameter?_listQuery {s : Selector} (h : ¬ s.isEmpty = true) :
    parameter? "labelSelector" (listQuery s) = some (formEncoded s.query).toList := by
  let name := "labelSelector".toList
  let value := (formEncoded s.query).toList
  have hchars := formEncoded_chars s.query
  have hand : ∀ part ∈ [[], ['='].intercalate [name, value]], '&' ∉ part := by
    have hvalue : '&' ∉ value := fun hc => (hchars _ hc).2.1 rfl
    simp [List.intercalate, name, hvalue]
  have heq : ∀ part ∈ [name, value], '=' ∉ part := by
    have hvalue : '=' ∉ value := fun hc => (hchars _ hc).2.2 rfl
    simp [name, hvalue]
  have hquery : (listQuery s).toList =
      ['&'].intercalate [[], ['='].intercalate [name, value]] := by
    simp [listQuery, h, List.intercalate, name, value]
  rw [parameter?, hquery, List.splitOn_intercalate '&' hand (by simp), List.findSome?_cons,
    List.findSome?_cons, List.splitOn_intercalate '=' heq (by simp)]
  rfl

theorem asked?_listQuery {s : Selector} (hs : s.Plain) :
    asked? (listQuery s) = some s.requirements.entries := by
  by_cases hempty : s.isEmpty = true
  · have hentries : s.requirements.entries = [] := List.isEmpty_iff.1 hempty
    rw [listQuery, if_pos hempty, hentries]
    rfl
  · rw [asked?, parameter?_listQuery hempty]
    change (formDecoded? (formEncoded s.query).toList).bind Selector.stated? = _
    rw [formDecoded?_formEncoded, Option.bind_some, Selector.stated?_query hs]

theorem listQuery_eq_empty {s : Selector} : listQuery s = "" ↔ s.isEmpty = true := by
  rw [listQuery]
  split
  · next h => exact ⟨fun _ => h, fun _ => rfl⟩
  · next h =>
    refine ⟨fun hquery => ?_, fun hempty => absurd hempty h⟩
    have hlist := congrArg String.toList hquery
    rw [String.toList_append] at hlist
    exact absurd (List.append_eq_nil_iff.1 hlist).1 (by decide)

variable {α ns?}

theorem read?_listAddress (hpath : Addressable α ns?) (s : Selector) :
    Http.Target.read? (collection α ns? ++ "?" ++ listQuery s) =
      if Http.Target.isTooLong (collection α ns? ++ "?" ++ listQuery s) then none
      else some ⟨collection α ns?, listQuery s⟩ := by
  have hroot : ∃ cs, (collection α ns?).toList = '/' :: cs := by
    unfold collection
    dsimp only
    split <;> exact ⟨_, by simp only [String.toList_append, List.append_assoc]; rfl⟩
  obtain ⟨cs, hcs⟩ := hroot
  have hread := ofPath?_eq hpath (listQuery_chars s)
  rw [String.ofList_toList, String.ofList_toList, hcs, List.cons_append] at hread
  have haddress : (collection α ns? ++ "?" ++ listQuery s).toList =
      '/' :: (cs ++ '?' :: (listQuery s).toList) := by
    simp [hcs]
  rw [Http.Target.read?]
  split
  · rfl
  · rw [haddress]
    exact hread

/-- A server that answers a list whose query asks for labels with the objects, of those it keeps,
that meet all of them. -/
def Selects {σ : Type} (server : Server (StateM σ)) (ns? : Option String) (kept : σ → List α) :
    Prop :=
  ∀ query rs w, asked? query = some rs →
    answerContent listOfText (server ⟨"GET", ⟨collection α ns?, query⟩, none, none⟩ w).1 =
      .ok ((kept w).filter fun a => Selector.Meets (Resource.metadata a).labels rs)

def tooLong : StoreError := .kube (.unsendable "failed to build request: uri too long")

variable {σ : Type} {server : Server (StateM σ)}

theorem list_eq (hpath : Addressable α ns?) (s : Selector) : Cluster.list server ns? s =
    if Http.Target.isTooLong (collection α ns? ++ "?" ++ listQuery s) then
      (pure (.error tooLong) : StateM σ (Except StoreError (List α)))
    else Cluster.explained (Resource.kind α ++ " list") <| answerContent listOfText <$>
      server ⟨"GET", ⟨collection α ns?, listQuery s⟩, none, none⟩ := by
  change Cluster.explained (Resource.kind α ++ " list") (send server "GET"
    (collection α ns? ++ "?" ++ listQuery s) none none listOfText) = _
  have hread := read?_listAddress hpath s
  unfold send
  by_cases hlong : Http.Target.isTooLong (collection α ns? ++ "?" ++ listQuery s) = true
  · simp only [hread, hlong, if_true]
    rfl
  · simp only [hread, hlong]
    rfl

theorem list_of_selects {kept : σ → List α} (hserver : Selects server ns? kept)
    (hpath : Addressable α ns?) {s : Selector} (hs : s.Plain) (w : σ) :
    (Cluster.list server ns? s w).1 =
      if Http.Target.isTooLong (collection α ns? ++ "?" ++ listQuery s) then .error tooLong
      else .ok ((kept w).filter fun a => s.matches (Resource.metadata a).labels) := by
  have hmeets : (kept w).filter (fun a =>
        Selector.Meets (Resource.metadata a).labels s.requirements.entries) =
      (kept w).filter fun a => s.matches (Resource.metadata a).labels := by
    apply List.filter_congr
    intro a _
    rw [Bool.eq_iff_iff, decide_eq_true_iff]
    exact Selector.meets_iff s _
  rw [list_eq hpath]
  split
  · rfl
  · change Except.mapError _ (answerContent listOfText (server _ w).1) = _
    rw [hserver _ _ w (asked?_listQuery hs), hmeets]
    rfl

theorem isTooLong_listQuery (address : String) {s : Selector}
    (h : Http.Target.maxSize < s.query.utf8ByteSize) :
    Http.Target.isTooLong (address ++ listQuery s) = true := by
  have hsome : ¬ s.isEmpty = true := by
    intro hempty
    have hquery : s.query = "" := by
      rw [Selector.query, List.isEmpty_iff.1 hempty]
      rfl
    rw [hquery] at h
    exact absurd h (by decide)
  have hencoded := utf8ByteSize_le_formEncoded s.query
  have hsize : Http.Target.maxSize < (address ++ listQuery s).utf8ByteSize := by
    rw [listQuery, if_neg hsome, String.utf8ByteSize_append, String.utf8ByteSize_append]
    omega
  exact decide_eq_true hsize

theorem filter_matching (store : Store α) (s : Selector) :
    (store.matching ns? Selector.everything).filter
      (fun a => s.matches (Resource.metadata a).labels) = store.matching ns? s := by
  rw [Store.matching, Store.matching, List.filter_map, List.filter_filter]
  apply congrArg
  apply List.filter_congr
  intro e _
  have heverything : Selector.everything.matches (Resource.metadata e.2).labels = true := rfl
  rw [heverything, Bool.and_true, Bool.and_comm]
  rfl

end Lists

namespace Selector

/-- The requirements that are read from a query are those of the selector that it was written from,
which is to say those last asked for. -/
structure Recovers (s : Selector) (rs : List (String × String)) : Prop where
  keys : (rs.map (·.1)).Nodup
  values : ∀ key value, (key, value) ∈ rs ↔ s.requirements.get? key = some value
  last : ∀ calls, s = ofCalls calls →
    ∀ key value, (key, value) ∈ rs ↔ last? calls key = some value
  meets : ∀ labels, Meets labels rs ↔ s.matches labels = true

/-- What a list by a selector comes to at an API server: the query is sent, unless the address gets
too long with it, and what a server answers that evaluates it is what a store picks out of the same
objects. -/
structure Lists {σ : Type} (α : Type) [Resource α] (server : Server (StateM σ))
    (ns? : Option String) (s : Selector) : Prop where
  sends : Http.Target.isTooLong (collection α ns? ++ "?" ++ listQuery s) = false →
    (Cluster.list server ns? s : StateM σ (Except StoreError (List α))) =
      Cluster.explained (Resource.kind α ++ " list") (answerContent listOfText <$>
        server ⟨"GET", ⟨collection α ns?, listQuery s⟩, none, none⟩)
  agrees : Http.Target.isTooLong (collection α ns? ++ "?" ++ listQuery s) = false →
    ∀ (kept : σ → List α) (w : σ) (store : Store α), Selects server ns? kept →
      kept w = store.matching ns? everything → store.fault? .list none = none →
        (Cluster.list server ns? s w).1 = (store.list ns? s).1
  refuses : Http.Target.isTooLong (collection α ns? ++ "?" ++ listQuery s) = true →
    (Cluster.list server ns? s : StateM σ (Except StoreError (List α))) = pure (.error tooLong)

/-- What the text of a selector means. -/
structure Means (s : Selector) : Prop where
  reads : ∃ rs, stated? s.query = some rs ∧ Recovers s rs
  unordered : ∀ calls calls', s = ofCalls calls →
    (∀ key, calls.filter (·.1 = key) = calls'.filter (·.1 = key)) → s = ofCalls calls'
  tells : ∀ t : Selector, t.Plain → (s.query = t.query ↔ s = t)
  silent : listQuery s = "" ↔ s.isEmpty = true
  asks : asked? (listQuery s) = stated? s.query
  lists : ∀ {σ α : Type} [Resource α] (server : Server (StateM σ)) (ns? : Option String),
    Addressable α ns? → Lists α server ns? s

theorem recovers_entries (s : Selector) : Recovers s s.requirements.entries := by
  have hmem (key value : String) :
      (key, value) ∈ s.requirements.entries ↔ s.requirements.get? key = some value :=
    (s.requirements.get?_eq_some_iff).symm
  refine ⟨s.requirements.keys_nodup, hmem, fun calls hcalls key value => ?_, meets_iff s⟩
  rw [hmem, hcalls, get?_ofCalls]

theorem lists_of_plain {σ α : Type} [Resource α] {s : Selector} (hs : s.Plain)
    (server : Server (StateM σ)) {ns? : Option String} (hpath : Addressable α ns?) :
    Lists α server ns? s := by
  refine ⟨fun hshort => ?_, fun hshort kept w store hserver hkept hfaultless => ?_, fun hlong => ?_⟩
  · rw [list_eq hpath, hshort]
    rfl
  · rw [list_of_selects hserver hpath hs, hshort, hkept, filter_matching,
      store.list_of_faultless s hfaultless]
    rfl
  · rw [list_eq hpath, hlong]
    rfl

/-- A query means what the selector that it was written from means: to all who read it, and to an
API server that is sent it. -/
theorem query_means {s : Selector} (hs : s.Plain) : Means s where
  reads := ⟨_, stated?_query hs, recovers_entries s⟩
  unordered _ _ hcalls hsame := hcalls.trans (ofCalls_congr hsame)
  tells _ ht := query_inj hs ht
  silent := listQuery_eq_empty
  asks := (asked?_listQuery hs).trans (stated?_query hs).symm
  lists server _ hpath := lists_of_plain hs server hpath

section Samples

def ordersLabels : Labels :=
  .ofList [("app", "grafana"), ("binding", "orders"), ("k8s-app", "monitoring")]

def noItems : String := "\x7b\"items\":[]\x7d"

def ordersItems : String :=
  "\x7b\"items\":[\x7b\"metadata\":\x7b\"name\":\"orders\",\"namespace\":\"shop\",\"labels\":" ++
  "\x7b\"app\":\"grafana\",\"binding\":\"orders\",\"k8s-app\":\"monitoring\"\x7d\x7d," ++
  "\"spec\":\x7b\x7d\x7d]\x7d"

def ordersServer : Server (StateM Unit) := fun r =>
  pure <| .ok ⟨200, match asked? r.target.query with
    | some rs => if Meets (some ordersLabels) rs then ordersItems else noItems
    | none => noItems⟩

def ordersInstance : MonitoringInstance :=
  match (listOfText ordersItems : Except Json.Unreadable (List MonitoringInstance)) with
  | .ok [i] => i
  | _ => default

def ordersStore : Store MonitoringInstance where
  objects := .ofList [(⟨"shop", "orders"⟩, ordersInstance)]

theorem listOfText_ordersItems : listOfText ordersItems = .ok [ordersInstance] ∧
    ordersInstance.metadata.labels = some ordersLabels := by
  have hone : ((listOfText ordersItems : Except Json.Unreadable
      (List MonitoringInstance)).toOption.map (List.map (·.metadata.labels))) =
      some [some ordersLabels] := by decide +kernel
  unfold ordersInstance
  cases hread : (listOfText ordersItems : Except Json.Unreadable (List MonitoringInstance)) with
  | error e =>
    rw [hread] at hone
    cases hone
  | ok items =>
    rw [hread] at hone
    obtain ⟨i, rfl, hlabels⟩ := List.map_eq_singleton_iff.1 (Option.some.inj hone)
    exact ⟨rfl, hlabels⟩

theorem listOfText_noItems : listOfText noItems = .ok ([] : List MonitoringInstance) := by
  have hnone : ((listOfText noItems : Except Json.Unreadable
      (List MonitoringInstance)).toOption.map List.length) = some 0 := by decide +kernel
  cases hread : (listOfText noItems : Except Json.Unreadable (List MonitoringInstance)) with
  | error e =>
    rw [hread] at hnone
    cases hnone
  | ok items =>
    rw [hread] at hnone
    rw [List.eq_nil_of_length_eq_zero (Option.some.inj hnone)]

theorem ordersServer_selects : Selects ordersServer none fun _ => [ordersInstance] := by
  obtain ⟨hitems, hlabels⟩ := listOfText_ordersItems
  intro query rs w hasked
  change answerContent listOfText (ordersServer _ w).1 =
    .ok ([ordersInstance].filter fun i => Meets i.metadata.labels rs)
  simp only [ordersServer, hasked]
  by_cases hmeets : Meets (some ordersLabels) rs
  · rw [if_pos hmeets, List.filter_cons_of_pos (by simpa [hlabels] using hmeets)]
    change Except.mapError _ (listOfText ordersItems) = _
    rw [hitems]
    rfl
  · rw [if_neg hmeets, List.filter_cons_of_neg (by simpa [hlabels] using hmeets)]
    change Except.mapError _ (listOfText noItems) = _
    rw [listOfText_noItems]
    rfl

def ordersSelector : Selector := (eq "k8s-app" "monitoring").and "binding" "orders"

theorem query_means_orders : ordersSelector.Plain ∧
    ordersSelector.query = "binding=orders,k8s-app=monitoring" ∧
    (Cluster.list ordersServer none ordersSelector ()).1 = .ok [ordersInstance] ∧
    (ordersStore.list none ordersSelector).1 = .ok [ordersInstance] := by
  have hplain : ordersSelector.Plain := by decide
  have haddressable : Addressable MonitoringInstance none := by decide
  have hlists : Lists MonitoringInstance ordersServer none ordersSelector :=
    (query_means hplain).lists ordersServer none haddressable
  have hshort : Http.Target.isTooLong (collection MonitoringInstance none ++ "?" ++
    listQuery ordersSelector) = false := by decide +kernel
  have hagree := hlists.agrees hshort (fun _ => [ordersInstance]) () ordersStore
    ordersServer_selects rfl rfl
  have hmatches : ordersSelector.matches ordersInstance.metadata.labels = true := by
    rw [listOfText_ordersItems.2]
    decide
  have hpicked : ordersStore.matching none ordersSelector = [ordersInstance] := by
    rw [← filter_matching]
    exact List.filter_cons_of_pos hmatches
  have hstore : (ordersStore.list none ordersSelector).1 = .ok [ordersInstance] := by
    rw [Store.list_of_faultless _ _ rfl, hpicked]
  exact ⟨hplain, by decide, hagree.trans hstore, hstore⟩

def labelled (ns value : String) : MonitoringInstance where
  metadata := { name := some "orders", ns? := some ns, labels := some (.ofList [("app", value)]) }
  spec := {}

def labelledStore (ns value : String) : Store MonitoringInstance where
  objects := .ofList [(⟨ns, "orders"⟩, labelled ns value)]

theorem list_labelledStore {ns : String} (value : String) {ns? : Option String}
    (h : (labelledStore ns value).matching ns? everything = [labelled ns value]) :
    ((labelledStore ns value).list ns? (eq "app" value)).1 = .ok [labelled ns value] := by
  have hmatches : (eq "app" value).matches (labelled ns value).metadata.labels = true := by
    rw [«matches», List.all_eq_true]
    intro r hr
    obtain rfl := List.mem_singleton.1 hr
    exact decide_eq_true rfl
  rw [Store.list_of_faultless _ _ rfl, ← filter_matching, h]
  exact congrArg Except.ok (List.filter_cons_of_pos hmatches)

def valueOfSize (n : Nat) : String := String.ofList (List.replicate n 'a')

theorem plain_valueOfSize (n : Nat) : (eq "app" (valueOfSize n)).Plain := by
  have hchars (c : Char) (h : c ≠ 'a') : c ∉ (valueOfSize n).toList := by
    rw [valueOfSize, String.toList_ofList]
    exact fun hmem => h (List.eq_of_mem_replicate hmem)
  have happ : Unmarked "app" := by decide
  intro r hr
  obtain rfl := List.mem_singleton.1 hr
  exact ⟨happ, hchars _ (by decide), hchars _ (by decide)⟩

theorem list_valueOfSize {n : Nat} (h : Http.Target.maxSize < n) (server : Server (StateM Unit)) :
    (Cluster.list server none (eq "app" (valueOfSize n)) :
      StateM Unit (Except StoreError (List MonitoringInstance))) = pure (.error tooLong) := by
  have hquery (value : String) : (eq "app" value).query = "app" ++ "=" ++ value := rfl
  have hlength := length_le_utf8ByteSize (List.replicate n 'a')
  have hlong : Http.Target.maxSize < (eq "app" (valueOfSize n)).query.utf8ByteSize := by
    rw [List.length_replicate] at hlength
    rw [hquery, String.utf8ByteSize_append, valueOfSize]
    omega
  have haddressable : Addressable MonitoringInstance none := by decide
  rw [list_eq haddressable, if_pos (isTooLong_listQuery _ hlong)]

/-- What a store lists cannot be asked of an API server if the selector is too long, or the namespace
holds what no address may. -/
theorem query_too_long : (eq "app" (valueOfSize 70000)).Plain ∧
    (∀ server : Server (StateM Unit), (Cluster.list server none (eq "app" (valueOfSize 70000)) :
      StateM Unit (Except StoreError (List MonitoringInstance))) = pure (.error tooLong)) ∧
    ((labelledStore "shop" (valueOfSize 70000)).list none (eq "app" (valueOfSize 70000))).1 =
      .ok [labelled "shop" (valueOfSize 70000)] ∧
    (∀ server : Server (StateM Unit), (Cluster.list server (some "a b") (eq "app" "grafana") :
      StateM Unit (Except StoreError (List MonitoringInstance))) =
        pure (.error (.kube (.unsendable "failed to build request: invalid uri character")))) ∧
    ((labelledStore "a b" "grafana").list (some "a b") (eq "app" "grafana")).1 =
      .ok [labelled "a b" "grafana"] := by
  refine ⟨plain_valueOfSize _, list_valueOfSize (by decide), list_labelledStore _ rfl,
    fun server => ?_, list_labelledStore "grafana" rfl⟩
  have hunread : Http.Target.read? (collection MonitoringInstance (some "a b") ++ "?" ++
      listQuery (eq "app" "grafana")) = none := by decide +kernel
  have hshort : Http.Target.isTooLong (collection MonitoringInstance (some "a b") ++ "?" ++
      listQuery (eq "app" "grafana")) = false := by decide +kernel
  change Cluster.explained _ (send server "GET" (collection MonitoringInstance (some "a b") ++ "?" ++
    listQuery (eq "app" "grafana")) none none listOfText) = _
  rw [send, hunread, hshort]
  rfl

end Samples

end Selector

end MonitoringStack.Kube
