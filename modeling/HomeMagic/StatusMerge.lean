import HomeMagic.ShellyStatus
import HomeMagic.SortedEntries

/-! Status notifications against JSON merge patches: when laying one over the cache is a merge patch of each component
that it names, and what it reports as changed. -/
namespace HomeMagic
open List

inductive JsonSorted : JsonValue → Prop
  | leaf {value : JsonValue} (h : value.asObject = none) : JsonSorted value
  | object {members : JsonObject} (hnames : EntriesSorted members)
      (hmembers : ∀ entry ∈ members, JsonSorted entry.2) : JsonSorted (.object members)

mutual
def mergePatch (target : Option JsonValue) : JsonValue → JsonValue
  | .object patch => .object (patchMembers ((target.bind JsonValue.asObject).getD []) patch)
  | .null => .null
  | .bool value => .bool value
  | .integer value => .integer value
  | .number text => .number text
  | .string value => .string value
  | .array elements => .array elements

def patchMembers (target : JsonObject) : List (String × JsonValue) → JsonObject
  | [] => target
  | (name, value) :: rest =>
    patchMembers
      (if value.isNull then JsonObject.remove name target
      else JsonObject.set name (mergePatch (target.lookup name) value) target)
      rest
end

mutual
def nullsApply (target : Option JsonValue) : JsonValue → Bool
  | .object patch => nullsApplyMembers (target.bind JsonValue.asObject) patch
  | .null => true
  | .bool _ => true
  | .integer _ => true
  | .number _ => true
  | .string _ => true
  | .array _ => true

def nullsApplyMembers (existing : Option JsonObject) : List (String × JsonValue) → Bool
  | [] => true
  | (name, value) :: rest =>
    (if value.isNull then existing.isSome else nullsApply (existing.bind (List.lookup name)) value) &&
      nullsApplyMembers existing rest
end

def mergeInto : Option JsonValue → JsonValue → JsonValue
  | some current, patch => mergeValue current patch
  | none, patch => patch

theorem set_eq_setEntry (name : String) (value : JsonValue) (members : JsonObject) :
    JsonObject.set name value members = setEntry name value members := by
  induction members with
  | nil => rfl
  | cons entry rest ih =>
    unfold JsonObject.set setEntry
    rw [ih]

theorem remove_eq_dropEntry (name : String) (members : JsonObject) :
    JsonObject.remove name members = dropEntry name members := rfl

theorem mergeMembers_eq (existing patch : JsonObject) :
    mergeMembers existing patch = patchEntries JsonValue.isNull mergeInto existing patch := by
  induction patch generalizing existing with
  | nil => rw [mergeMembers]; rfl
  | cons entry rest ih =>
    calc mergeMembers existing (entry :: rest)
        = mergeMembers (patchEntry JsonValue.isNull mergeInto existing entry) rest := by
          rw [mergeMembers]
          refine congrArg (fun members => mergeMembers members rest) ?_
          unfold patchEntry
          rw [remove_eq_dropEntry]
          cases existing.lookup entry.1 with
          | none | some old => simp only [set_eq_setEntry, mergeInto]
      _ = patchEntries JsonValue.isNull mergeInto existing (entry :: rest) := ih _

theorem patchMembers_eq (target patch : JsonObject) :
    patchMembers target patch = patchEntries JsonValue.isNull mergePatch target patch := by
  induction patch generalizing target with
  | nil => rw [patchMembers]; rfl
  | cons entry rest ih =>
    have hstep : (if entry.2.isNull then JsonObject.remove entry.1 target
        else JsonObject.set entry.1 (mergePatch (target.lookup entry.1) entry.2) target) =
        patchEntry JsonValue.isNull mergePatch target entry := by
      unfold patchEntry
      rw [remove_eq_dropEntry, set_eq_setEntry]
    rw [patchMembers, hstep, ih]
    rfl

theorem overlay_eq (components patches : JsonObject) :
    StatusCache.overlay components patches = patchEntries (fun _ => false) mergeInto components patches := by
  refine congrArg (fun step => patches.foldl step components) ?_
  funext components patch
  unfold patchEntry
  rw [if_neg Bool.false_ne_true, set_eq_setEntry]
  cases components.lookup patch.1 with
  | none | some current => rfl

section Leaves
variable {value : JsonValue} (h : value.asObject = none) (target : Option JsonValue)
include h

theorem mergeInto_leaf : mergeInto target value = value := by
  cases target with
  | none => rfl
  | some current => cases value <;> first | rfl | cases h

theorem mergePatch_leaf : mergePatch target value = value := by
  cases value <;> first | rfl | cases h

theorem nullsApply_leaf : nullsApply target value = true := by
  cases value <;> first | rfl | cases h

end Leaves

theorem mergeInto_object (target : Option JsonValue) (patch : JsonObject) :
    mergeInto target (.object patch) =
      match target.bind JsonValue.asObject with
      | some existing => .object (patchEntries JsonValue.isNull mergeInto existing patch)
      | none => .object patch := by
  cases target with
  | none => rfl
  | some current =>
    cases current with
    | object existing => exact congrArg JsonValue.object (mergeMembers_eq existing patch)
    | _ => rfl

theorem mergePatch_object (target : Option JsonValue) (patch : JsonObject) :
    mergePatch target (.object patch) =
      .object (patchEntries JsonValue.isNull mergePatch ((target.bind JsonValue.asObject).getD []) patch) := by
  rw [mergePatch, patchMembers_eq]

theorem nullsApplyMembers_iff (existing : Option JsonObject) (patch : JsonObject) :
    nullsApplyMembers existing patch = true ↔ ∀ entry ∈ patch,
      (entry.2.isNull = true → existing.isSome = true) ∧
      (entry.2.isNull = false → nullsApply (existing.bind (List.lookup entry.1)) entry.2 = true) := by
  induction patch with
  | nil => simp [nullsApplyMembers]
  | cons entry rest ih =>
    rw [nullsApplyMembers, Bool.and_eq_true, ih, forall_mem_cons]
    refine and_congr_left (fun _ => ?_)
    cases entry.2.isNull <;> simp

def TargetSorted (target : Option JsonValue) : Prop := ∀ value, target = some value → JsonSorted value

theorem JsonSorted.of_object {members : JsonObject} (h : JsonSorted (.object members)) :
    EntriesSorted members ∧ ∀ entry ∈ members, JsonSorted entry.2 := by
  cases h with
  | leaf h => cases h
  | object hnames hmembers => exact ⟨hnames, hmembers⟩

theorem TargetSorted.none : TargetSorted Option.none := fun _ h => nomatch h

theorem TargetSorted.lookup {members : JsonObject} (hnames : EntriesSorted members)
    (hmembers : ∀ entry ∈ members, JsonSorted entry.2) (name : String) : TargetSorted (members.lookup name) := by
  intro value hvalue
  exact hmembers _ (hnames.lookup_iff_mem.mp hvalue)

variable {target : Option JsonValue}

theorem TargetSorted.members (h : TargetSorted target) {existing : JsonObject}
    (hobject : target.bind JsonValue.asObject = some existing) :
    EntriesSorted existing ∧ ∀ entry ∈ existing, JsonSorted entry.2 := by
  obtain ⟨value, hvalue, hmembers⟩ := Option.bind_eq_some_iff.mp hobject
  cases value with
  | object members =>
    cases hmembers
    exact (h _ hvalue).of_object
  | _ => cases hmembers

variable {value : JsonValue}

theorem mergeInto_eq_mergePatch_iff (htarget : TargetSorted target)
    (h : JsonSorted value) : mergeInto target value = mergePatch target value ↔ nullsApply target value = true := by
  induction h generalizing target with
  | leaf h => simp only [mergeInto_leaf h, mergePatch_leaf h, nullsApply_leaf h]
  | @object patch hnames _ ih =>
    rw [mergeInto_object, mergePatch_object, nullsApply, nullsApplyMembers_iff]
    cases hobject : target.bind JsonValue.asObject with
    | none =>
      have hself : patchEntries JsonValue.isNull mergePatch [] patch = patch ↔ ∀ entry ∈ patch,
          entry.2.isNull = false ∧ mergePatch none entry.2 = entry.2 :=
        patchEntries_eq_self_iff List.Pairwise.nil hnames (fun _ _ => rfl)
      change JsonValue.object patch = .object (patchEntries JsonValue.isNull mergePatch [] patch) ↔ _
      rw [JsonValue.object.injEq, eq_comm, hself]
      refine forall₂_congr (fun entry hentry => ?_)
      have hmember : entry.2 = mergePatch none entry.2 ↔ nullsApply none entry.2 = true :=
        ih entry hentry TargetSorted.none
      change _ ↔ (_ → false = true) ∧ (_ → nullsApply none entry.2 = true)
      rw [← hmember, eq_comm (a := mergePatch none entry.2)]
      cases entry.2.isNull <;> simp
    | some existing =>
      obtain ⟨hexisting, hmembers⟩ := htarget.members hobject
      change JsonValue.object (patchEntries JsonValue.isNull mergeInto existing patch) =
        .object (patchEntries JsonValue.isNull mergePatch existing patch) ↔ _
      rw [JsonValue.object.injEq, patchEntries_eq_iff hexisting hnames]
      refine forall₂_congr (fun entry hentry => ?_)
      have hmember := ih entry hentry (TargetSorted.lookup hexisting hmembers entry.1)
      change _ ↔ _ ∧ (_ → nullsApply (existing.lookup entry.1) entry.2 = true)
      rw [← hmember]
      exact ⟨fun hkept => ⟨fun _ => rfl, hkept⟩, And.right⟩

theorem mergeInto_twice (htarget : TargetSorted target)
    (h : JsonSorted value) (hnulls : nullsApply target value = true) :
    mergeInto (some (mergeInto target value)) value = mergeInto target value := by
  induction h generalizing target with
  | leaf h => simp only [mergeInto_leaf h]
  | @object patch hnames _ ih =>
    rw [nullsApply, nullsApplyMembers_iff] at hnulls
    rw [mergeInto_object target]
    cases hobject : target.bind JsonValue.asObject with
    | none =>
      rw [hobject] at hnulls
      change mergeInto (some (.object patch)) (.object patch) = .object patch
      rw [mergeInto_object]
      refine congrArg JsonValue.object ((patchEntries_eq_self_iff hnames hnames (fun _ hk => hk)).mpr ?_)
      intro entry hentry
      obtain ⟨hnull, hnested⟩ := hnulls entry hentry
      have hkept : entry.2.isNull = false := Bool.eq_false_iff.mpr (fun hisNull => nomatch hnull hisNull)
      refine ⟨hkept, ?_⟩
      rw [hnames.lookup_iff_mem.mpr hentry]
      exact ih entry hentry TargetSorted.none (hnested hkept)
    | some existing =>
      obtain ⟨hexisting, hmembers⟩ := htarget.members hobject
      rw [hobject] at hnulls
      change mergeInto (some (.object (patchEntries JsonValue.isNull mergeInto existing patch))) (.object patch) =
        .object (patchEntries JsonValue.isNull mergeInto existing patch)
      rw [mergeInto_object]
      refine congrArg JsonValue.object (patchEntries_twice hexisting hnames (fun entry hentry hkept => ?_))
      exact ih entry hentry (TargetSorted.lookup hexisting hmembers entry.1) ((hnulls entry hentry).2 hkept)

theorem JsonSorted.mergeInto (htarget : TargetSorted target)
    (h : JsonSorted value) : JsonSorted (mergeInto target value) := by
  induction h generalizing target with
  | leaf h => rw [mergeInto_leaf h]; exact .leaf h
  | @object patch hnames hvalues ih =>
    rw [mergeInto_object]
    cases hobject : target.bind JsonValue.asObject with
    | none => exact .object hnames hvalues
    | some existing =>
      obtain ⟨hexisting, hmembers⟩ := htarget.members hobject
      refine .object (hexisting.patchEntries _ _ patch) (patchEntries_all hexisting hnames hmembers ?_)
      intro entry hentry _
      exact ih entry hentry (TargetSorted.lookup hexisting hmembers entry.1)

def fieldOf (components : JsonObject) (component field : String) : Option JsonValue :=
  ((components.lookup component).bind JsonValue.asObject).bind (List.lookup field)

def changesBetween (before after : JsonObject) : List (String × List String) :=
  (sortedKeys (before.map Prod.fst ++ after.map Prod.fst)).filterMap (fun component =>
    let fields := changedTopLevelFields (before.lookup component) (after.lookup component)
    if fields.isEmpty then none else some (component, fields))

theorem mem_sortedKeys {keys : List String} {key : String} : key ∈ sortedKeys keys ↔ key ∈ keys := by
  unfold sortedKeys
  rw [mem_insertionSort, mem_dedup]

theorem sortedKeys_nodup (keys : List String) : (sortedKeys keys).Nodup :=
  (perm_insertionSort _ _).nodup_iff.mpr (nodup_dedup keys)

theorem mem_names_of_lookup {entries : JsonObject} {name : String} (h : entries.lookup name ≠ none) :
    name ∈ entries.map Prod.fst := by
  by_contra hnot
  refine h (lookup_eq_none_iff.mpr (fun entry hentry => ?_))
  exact bne_iff_ne.mpr (fun hname => hnot (List.mem_map.mpr ⟨entry, hentry, hname.symm⟩))

theorem lookup_getD (members : Option JsonObject) (name : String) :
    (members.getD []).lookup name = members.bind (List.lookup name) := by
  cases members <;> rfl

variable {cache : StatusCache} {component field : String} {after before : JsonObject}
  {notification : StatusNotification}

theorem mem_changedTopLevelFields {before after : Option JsonValue} :
    field ∈ changedTopLevelFields before after ↔
      (before.bind JsonValue.asObject).bind (List.lookup field) ≠
        (after.bind JsonValue.asObject).bind (List.lookup field) := by
  unfold changedTopLevelFields
  rw [List.mem_filter, mem_sortedKeys, lookup_getD, lookup_getD, bne_iff_ne, mem_append,
    and_iff_right_of_imp]
  intro hne
  by_contra hnot
  obtain ⟨hbefore, hafter⟩ := not_or.mp hnot
  have hnone : ∀ {members : Option JsonObject}, field ∉ (members.getD []).map Prod.fst →
      members.bind (List.lookup field) = none := by
    intro members hmembers
    by_contra hfound
    exact hmembers (mem_names_of_lookup (by rw [lookup_getD]; exact hfound))
  exact hne (by rw [hnone hbefore, hnone hafter])

theorem mem_changesBetween {fields : List String} :
    (component, fields) ∈ changesBetween before after ↔
      fields = changedTopLevelFields (before.lookup component) (after.lookup component) ∧ fields ≠ [] := by
  unfold changesBetween
  simp only [mem_filterMap, mem_sortedKeys]
  constructor
  · rintro ⟨name, _, hname⟩
    split_ifs at hname with hempty
    obtain ⟨rfl, rfl⟩ := Prod.mk.inj (Option.some.inj hname)
    exact ⟨rfl, fun hnil => hempty (List.isEmpty_iff.mpr hnil)⟩
  · rintro ⟨rfl, hne⟩
    obtain ⟨field, hfield⟩ := exists_mem_of_ne_nil _ hne
    refine ⟨component, ?_, if_neg (fun hempty => hne (List.isEmpty_iff.mp hempty))⟩
    rw [mem_append]
    by_contra hnot
    obtain ⟨hbefore, hafter⟩ := not_or.mp hnot
    have hnone : ∀ {components : JsonObject}, component ∉ components.map Prod.fst →
        components.lookup component = none :=
      fun hcomponents => by_contra (fun hfound => hcomponents (mem_names_of_lookup hfound))
    rw [hnone hbefore, hnone hafter] at hfield
    exact mem_changedTopLevelFields.mp hfield rfl

theorem changesBetween_nodup (before after : JsonObject) :
    ((changesBetween before after).map Prod.fst).Nodup ∧ ∀ listed ∈ changesBetween before after, listed.2.Nodup := by
  constructor
  · have hsublist : ((changesBetween before after).map Prod.fst).Sublist
        (sortedKeys (before.map Prod.fst ++ after.map Prod.fst)) := by
      unfold changesBetween
      induction sortedKeys (before.map Prod.fst ++ after.map Prod.fst) with
      | nil => exact List.Sublist.refl _
      | cons name rest ih =>
        rw [filterMap_cons]
        by_cases hempty : (changedTopLevelFields (before.lookup name) (after.lookup name)).isEmpty = true
        · simp only [hempty, if_true]
          exact ih.trans (sublist_cons_self _ _)
        · simp only [hempty]
          exact ih.cons_cons name
    exact hsublist.nodup (sortedKeys_nodup _)
  · rintro ⟨component, fields⟩ hmem
    obtain ⟨rfl, _⟩ := mem_changesBetween.mp hmem
    unfold changedTopLevelFields
    exact (sortedKeys_nodup _).filter _

theorem changesBetween_self (components : JsonObject) : changesBetween components components = [] := by
  rw [eq_nil_iff_forall_not_mem]
  rintro ⟨component, fields⟩ hmem
  obtain ⟨rfl, hne⟩ := mem_changesBetween.mp hmem
  obtain ⟨field, hfield⟩ := exists_mem_of_ne_nil _ hne
  exact mem_changedTopLevelFields.mp hfield rfl

theorem listed_iff :
    (∃ fields, (component, fields) ∈ changesBetween before after ∧ field ∈ fields) ↔
      fieldOf before component field ≠ fieldOf after component field := by
  constructor
  · rintro ⟨fields, hmem, hfield⟩
    obtain ⟨rfl, _⟩ := mem_changesBetween.mp hmem
    exact mem_changedTopLevelFields.mp hfield
  · intro hne
    have hfield : field ∈ changedTopLevelFields (before.lookup component) (after.lookup component) :=
      mem_changedTopLevelFields.mpr hne
    exact ⟨_, mem_changesBetween.mpr ⟨rfl, ne_nil_of_mem hfield⟩, hfield⟩

structure SortedNotification extends StatusNotification where
  names : EntriesSorted components
  values : ∀ entry ∈ components, JsonSorted entry.2

def followStatus (cache : StatusCache) (notifications : List SortedNotification) : StatusCache :=
  notifications.foldl (fun cache notification => (cache.apply notification.toStatusNotification).1) cache

def hasFields (value : JsonValue) : Bool := !(value.asObject.getD []).isEmpty

variable {n : SortedNotification}

namespace StatusCache

def outdates (cache : StatusCache) (notification : StatusNotification) : Bool :=
  cache.lastTimestamp.any (fun accepted => notification.timestamp < accepted)

def mergedComponents (cache : StatusCache) (notification : StatusNotification) : JsonObject :=
  if notification.full then notification.components else overlay cache.components notification.components

structure Sorted (cache : StatusCache) : Prop where
  names : EntriesSorted cache.components
  values : ∀ entry ∈ cache.components, JsonSorted entry.2

structure MergesAsPatch (cache : StatusCache) (notification : StatusNotification) : Prop where
  older : cache.outdates notification = true → cache.apply notification = (cache, ⟨[], [], true⟩)
  newer : cache.outdates notification = false → (cache.apply notification).2.requiresRefresh = false
  full : cache.outdates notification = false → notification.full = true →
    (cache.apply notification).1.components = notification.components
  part : cache.outdates notification = false → notification.full = false → ∀ component,
    (cache.apply notification).1.components.lookup component =
      match notification.components.lookup component with
      | none => cache.components.lookup component
      | some patch => some (mergePatch (cache.components.lookup component) patch)
  twice : ((cache.apply notification).1.apply notification).1 = (cache.apply notification).1 ∧
    ((cache.apply notification).1.apply notification).2.changedFields = []
  fields : ∀ component field,
    (∃ names, (component, names) ∈ (cache.apply notification).2.changedFields ∧ field ∈ names) ↔
      fieldOf cache.components component field ≠ fieldOf (cache.apply notification).1.components component field
  once : (cache.apply notification).2.changedComponents.Nodup ∧
    ∀ listed ∈ (cache.apply notification).2.changedFields, listed.2.Nodup
  components : (cache.apply notification).2.changedComponents =
    (cache.apply notification).2.changedFields.map Prod.fst
  turned : ∀ component, (cache.components.lookup component).isSome ≠
    ((cache.apply notification).1.components.lookup component).isSome →
      component ∈ (cache.apply notification).2.changedComponents

/-- A newer notification merges as a patch if its nulls have objects to remove members from, and every component
that it makes appear or disappear has a field. -/
structure Mergeable (cache : StatusCache) (notification : StatusNotification) : Prop where
  nulls : notification.full = false → ∀ entry ∈ notification.components,
    nullsApply (cache.components.lookup entry.1) entry.2 = true
  appear : ∀ entry ∈ notification.components, cache.components.lookup entry.1 = none → hasFields entry.2 = true
  disappear : notification.full = true → ∀ entry ∈ cache.components,
    notification.components.lookup entry.1 = none → hasFields entry.2 = true

theorem apply_outdated (h : cache.outdates notification = true) :
    cache.apply notification = (cache, ⟨[], [], true⟩) := if_pos h

theorem apply_newer (h : cache.outdates notification = false) :
    cache.apply notification = (⟨cache.mergedComponents notification, some notification.timestamp⟩,
      ⟨(changesBetween cache.components (cache.mergedComponents notification)).map Prod.fst,
        changesBetween cache.components (cache.mergedComponents notification), false⟩) :=
  if_neg (Bool.eq_false_iff.mp h)

theorem Sorted.mergedComponents (hcache : cache.Sorted) (n : SortedNotification) :
    EntriesSorted (cache.mergedComponents n.toStatusNotification) ∧
      ∀ entry ∈ cache.mergedComponents n.toStatusNotification, JsonSorted entry.2 := by
  unfold StatusCache.mergedComponents
  split_ifs
  · exact ⟨n.names, n.values⟩
  · rw [overlay_eq]
    refine ⟨hcache.names.patchEntries _ _ _, patchEntries_all hcache.names n.names hcache.values ?_⟩
    intro entry hentry _
    exact (n.values entry hentry).mergeInto (TargetSorted.lookup hcache.names hcache.values entry.1)

theorem Sorted.apply (hcache : cache.Sorted) (n : SortedNotification) :
    (cache.apply n.toStatusNotification).1.Sorted := by
  cases hout : cache.outdates n.toStatusNotification with
  | true => rw [apply_outdated hout]; exact hcache
  | false =>
    rw [apply_newer hout]
    exact ⟨(hcache.mergedComponents n).1, (hcache.mergedComponents n).2⟩

theorem Sorted.followStatus (hcache : cache.Sorted) (earlier : List SortedNotification) :
    (followStatus cache earlier).Sorted := by
  induction earlier generalizing cache with
  | nil => exact hcache
  | cons first rest ih => exact ih (hcache.apply first)

theorem sorted_empty : StatusCache.empty.Sorted := ⟨List.Pairwise.nil, fun _ hentry => nomatch hentry⟩

theorem lookup_overlay {components patches : JsonObject} (h : EntriesSorted patches) (component : String) :
    (overlay components patches).lookup component =
      match patches.lookup component with
      | none => components.lookup component
      | some patch => some (mergeInto (components.lookup component) patch) := by
  rw [overlay_eq, lookup_patchEntries _ _ h]
  cases patches.lookup component with
  | none | some patch => rfl

theorem listed_of_turned (hfields : hasFields value = true)
    (h : before.lookup component = some value ∧ after.lookup component = none ∨
      before.lookup component = none ∧ after.lookup component = some value) :
    component ∈ (changesBetween before after).map Prod.fst := by
  have hfield : ∃ field, value.asObject.bind (List.lookup field) ≠ none := by
    cases hobject : value.asObject with
    | none => simp [hasFields, hobject] at hfields
    | some members =>
      cases members with
      | nil => simp [hasFields, hobject] at hfields
      | cons entry rest => exact ⟨entry.1, by simp [List.lookup]⟩
  obtain ⟨field, hfield⟩ := hfield
  have hdiffers : fieldOf before component field ≠ fieldOf after component field := by
    unfold fieldOf
    rcases h with ⟨hbefore, hafter⟩ | ⟨hbefore, hafter⟩
    · rw [hbefore, hafter]; exact hfield
    · rw [hbefore, hafter]; exact hfield.symm
  obtain ⟨names, hmem, _⟩ := listed_iff.mpr hdiffers
  exact List.mem_map.mpr ⟨_, hmem, rfl⟩

theorem hasFields_of_listed (hlisted : component ∈ (changesBetween before after).map Prod.fst)
    (h : before.lookup component = some value ∧ after.lookup component = none ∨
      before.lookup component = none ∧ after.lookup component = some value) :
    hasFields value = true := by
  obtain ⟨⟨name, names⟩, hmem, rfl⟩ := List.mem_map.mp hlisted
  obtain ⟨hnames, hne⟩ := mem_changesBetween.mp hmem
  obtain ⟨field, hfield⟩ := exists_mem_of_ne_nil _ hne
  have hdiffers := mem_changedTopLevelFields.mp (hnames ▸ hfield)
  cases hobject : value.asObject with
  | none =>
    rcases h with ⟨hbefore, hafter⟩ | ⟨hbefore, hafter⟩
    · simp [hbefore, hafter, hobject] at hdiffers
    · simp [hbefore, hafter, hobject] at hdiffers
  | some members =>
    cases members with
    | nil =>
      rcases h with ⟨hbefore, hafter⟩ | ⟨hbefore, hafter⟩
      · simp [hbefore, hafter, hobject] at hdiffers
      · simp [hbefore, hafter, hobject] at hdiffers
    | cons entry rest => simp [hasFields, hobject]

theorem lookup_appearing {entry : String × JsonValue} (hentry : entry ∈ n.components)
    (hnone : cache.components.lookup entry.1 = none) :
    (cache.mergedComponents n.toStatusNotification).lookup entry.1 = some entry.2 := by
  have hvalue : n.components.lookup entry.1 = some entry.2 := n.names.lookup_iff_mem.mpr hentry
  unfold mergedComponents
  split_ifs
  · exact hvalue
  · rw [lookup_overlay n.names, hvalue, hnone]
    rfl

theorem MergesAsPatch.mergeable (hcache : cache.Sorted)
    (hout : cache.outdates n.toStatusNotification = false) (h : cache.MergesAsPatch n.toStatusNotification) :
    cache.Mergeable n.toStatusNotification := by
  have hturned := h.turned
  rw [apply_newer hout] at hturned
  refine ⟨fun hpart entry hentry => ?_, fun entry hentry hnone => ?_, fun hfull entry hentry hnone => ?_⟩
  · have hlookup := h.part hout hpart entry.1
    have hmerged : cache.mergedComponents n.toStatusNotification = overlay cache.components n.components :=
      if_neg (Bool.eq_false_iff.mp hpart)
    rw [apply_newer hout, hmerged, lookup_overlay n.names, n.names.lookup_iff_mem.mpr hentry] at hlookup
    have htarget := TargetSorted.lookup hcache.names hcache.values entry.1
    exact (mergeInto_eq_mergePatch_iff htarget (n.values entry hentry)).mp (Option.some.inj hlookup)
  · have hafter := lookup_appearing hentry hnone
    have hlisted := hturned entry.1 (by rw [hnone, hafter]; exact Bool.false_ne_true)
    exact hasFields_of_listed hlisted (.inr ⟨hnone, hafter⟩)
  · have hbefore := hcache.names.lookup_iff_mem.mpr hentry
    have hafter : (cache.mergedComponents n.toStatusNotification).lookup entry.1 = none := by
      unfold mergedComponents
      rw [if_pos hfull]
      exact hnone
    have hlisted := hturned entry.1 (by rw [hbefore, hafter]; exact Bool.false_ne_true.symm)
    exact hasFields_of_listed hlisted (.inl ⟨hbefore, hafter⟩)

theorem Mergeable.merged_twice (hcache : cache.Sorted) (h : cache.Mergeable n.toStatusNotification) :
    mergedComponents ⟨cache.mergedComponents n.toStatusNotification, some n.timestamp⟩ n.toStatusNotification =
      cache.mergedComponents n.toStatusNotification := by
  unfold mergedComponents
  split_ifs with hfull
  · rfl
  · rw [overlay_eq, overlay_eq]
    refine patchEntries_twice hcache.names n.names (fun entry hentry _ => ?_)
    exact mergeInto_twice (TargetSorted.lookup hcache.names hcache.values entry.1) (n.values entry hentry)
      (h.nulls (Bool.not_eq_true _ ▸ hfull) entry hentry)

theorem Mergeable.turned (hcache : cache.Sorted)
    (h : cache.Mergeable n.toStatusNotification) (hturned : (cache.components.lookup component).isSome ≠
      ((cache.mergedComponents n.toStatusNotification).lookup component).isSome) :
    component ∈ (changesBetween cache.components (cache.mergedComponents n.toStatusNotification)).map Prod.fst := by
  cases hbefore : cache.components.lookup component with
  | none =>
    cases hafter : (cache.mergedComponents n.toStatusNotification).lookup component with
    | none => exact absurd rfl (by rw [hbefore, hafter] at hturned; exact hturned)
    | some value =>
      cases hvalue : n.components.lookup component with
      | none =>
        -- nothing appears that the notification does not name
        unfold mergedComponents at hafter
        split_ifs at hafter
        · rw [hvalue] at hafter; cases hafter
        · rw [lookup_overlay n.names, hvalue] at hafter
          rw [hbefore] at hafter; cases hafter
      | some named =>
        have hentry := n.names.lookup_iff_mem.mp hvalue
        have happears : (cache.mergedComponents n.toStatusNotification).lookup component = some named :=
          lookup_appearing hentry hbefore
        exact listed_of_turned (h.appear _ hentry hbefore) (.inr ⟨hbefore, happears⟩)
  | some value =>
    cases hafter : (cache.mergedComponents n.toStatusNotification).lookup component with
    | some _ => exact absurd rfl (by rw [hbefore, hafter] at hturned; exact hturned)
    | none =>
      have hentry := hcache.names.lookup_iff_mem.mp hbefore
      unfold mergedComponents at hafter
      split_ifs at hafter with hfull
      · refine listed_of_turned (h.disappear hfull _ hentry hafter) (.inl ⟨hbefore, ?_⟩)
        unfold mergedComponents
        rw [if_pos hfull]
        exact hafter
      · -- a partial notification removes no component
        rw [lookup_overlay n.names, hbefore] at hafter
        cases hvalue : n.components.lookup component with
        | none | some patch => rw [hvalue] at hafter; cases hafter

theorem Mergeable.mergesAsPatch (hcache : cache.Sorted)
    (hout : cache.outdates n.toStatusNotification = false) (h : cache.Mergeable n.toStatusNotification) :
    cache.MergesAsPatch n.toStatusNotification := by
  have hagain : outdates ⟨cache.mergedComponents n.toStatusNotification, some n.timestamp⟩ n.toStatusNotification =
      false := by simp [outdates]
  have htwice := h.merged_twice hcache
  constructor
  case older => intro hout'; rw [hout] at hout'; cases hout'
  case newer => intro _; rw [apply_newer hout]
  case full => intro _ hfull; rw [apply_newer hout]; exact if_pos hfull
  case part =>
    intro _ hpart component
    have hmerged : cache.mergedComponents n.toStatusNotification = overlay cache.components n.components :=
      if_neg (Bool.eq_false_iff.mp hpart)
    rw [apply_newer hout, hmerged, lookup_overlay n.names]
    cases hvalue : n.components.lookup component with
    | none => rfl
    | some patch =>
      have hentry := n.names.lookup_iff_mem.mp hvalue
      have htarget := TargetSorted.lookup hcache.names hcache.values component
      exact congrArg some
        ((mergeInto_eq_mergePatch_iff htarget (n.values _ hentry)).mpr (h.nulls hpart _ hentry))
  case twice =>
    rw [apply_newer hout]
    dsimp only
    rw [apply_newer hagain, htwice]
    exact ⟨rfl, changesBetween_self _⟩
  case fields => intro component field; rw [apply_newer hout]; exact listed_iff
  case once => rw [apply_newer hout]; exact changesBetween_nodup _ _
  case components => rw [apply_newer hout]
  case turned => intro component; rw [apply_newer hout]; exact h.turned hcache

theorem mergesAsPatch_of_outdated (hout : cache.outdates notification = true) : cache.MergesAsPatch notification := by
  have happly := apply_outdated hout
  constructor
  case older => exact fun _ => happly
  case newer => intro hout'; rw [hout] at hout'; cases hout'
  case full => intro hout'; rw [hout] at hout'; cases hout'
  case part => intro hout'; rw [hout] at hout'; cases hout'
  case twice => rw [happly, happly]; exact ⟨rfl, rfl⟩
  case fields =>
    intro component field
    rw [happly]
    exact ⟨fun ⟨_, hmem, _⟩ => (nomatch hmem), fun hne => absurd rfl hne⟩
  case once => rw [happly]; exact ⟨nodup_nil, fun _ hlisted => nomatch hlisted⟩
  case components => rw [happly]; rfl
  case turned => intro component hne; rw [happly] at hne; exact absurd rfl hne

end StatusCache

/-- In every sequence of notifications, each one merges as a patch exactly if it is outdated or mergeable. -/
theorem merges_as_patch_iff (earlier : List SortedNotification) (n : SortedNotification) :
    (followStatus .empty earlier).MergesAsPatch n.toStatusNotification ↔
      (followStatus .empty earlier).outdates n.toStatusNotification = true ∨
      (followStatus .empty earlier).Mergeable n.toStatusNotification := by
  have hcache := StatusCache.sorted_empty.followStatus earlier
  constructor
  · intro h
    cases hout : (followStatus .empty earlier).outdates n.toStatusNotification with
    | true => exact .inl rfl
    | false => exact .inr (h.mergeable hcache hout)
  · intro h
    cases hout : (followStatus .empty earlier).outdates n.toStatusNotification with
    | true => exact StatusCache.mergesAsPatch_of_outdated hout
    | false =>
      rcases h with hout' | hmergeable
      · rw [hout] at hout'; cases hout'
      · exact hmergeable.mergesAsPatch hcache hout

def switchBaseline : SortedNotification where
  timestamp := 0
  full := true
  components := [("switch:0", .object [("output", .bool false)])]
  names := List.pairwise_singleton _ _
  values := by
    intro entry hentry
    rw [List.mem_singleton.mp hentry]
    refine .object (List.pairwise_singleton _ _) (fun member hmember => ?_)
    rw [List.mem_singleton.mp hmember]
    exact .leaf rfl

def timerCleared : StatusNotification where
  timestamp := 1
  full := false
  components := [("switch:0", .object [("timer", .object [("ends", .null)])])]

/-- The null is kept, and only the second notification removes it. -/
theorem null_kept_once : ¬ (followStatus .empty [switchBaseline]).MergesAsPatch timerCleared := by
  intro h
  have htwice := h.twice.2
  revert htwice
  decide +kernel

end HomeMagic
