import Aggkit.Encoding.Json
import Mathlib.Data.List.Nodup

/-! The check of deprecated configuration fields: `checkDeprecatedFields`, which `loadString`
runs over the keys viper read, its rules `deprecatedFieldsOnConfig`, and the way `LoadFile` lets
its error pass when deprecated fields are allowed.

`getDeprecatedField` gives a key the first rule of the table whose pattern, lower-cased,
matches the lower-cased key: the pattern is the key, or names a section the key is in (a pattern
that ends with a dot is a section, any other one is a section once a dot is put after it).
`checkDeprecatedFields` fails exactly when some key has a rule, and its error holds, for each
rule, exactly the keys that rule was given, in the order viper listed them
(`checkDeprecatedFields_groups`); its text names every one of them whatever order the map is
visited in (`error_names_matching_field`). -/
namespace Aggkit.Config

open Aggkit.Encoding

/-! ### The rules -/

def bridgeAddrSetOnWrongSection : List UInt8 :=
  ascii "Bridge contract address must be set in the root of config file as polygonBridgeAddr."

def l2URLHint : List UInt8 := ascii "Use L2URL instead"

def bridgeMetadataAsHashHint : List UInt8 :=
  ascii "BridgeMetaDataAsHash is deprecated, remove it from configuration " ++
    ascii "(bridge metadata is always stored as hash)"

def aggsenderAgglayerClientHint : List UInt8 := ascii "Use AggSender.AgglayerClient instead"

def aggsenderAggkitProverClientHint : List UInt8 :=
  ascii "Use AggSender.AggkitProverClient instead"

def aggsenderAgglayerClientUseTLSHint : List UInt8 :=
  ascii "Use AggSender.AgglayerClient.UseTLS instead"

def aggsenderAggkitProverClientUseTLSHint : List UInt8 :=
  ascii "Use AggSender.AggkitProverClient.UseTLS instead"

def aggsenderUseRequestTimeoutHint : List UInt8 :=
  ascii "Use AggSender.AggkitProverClient.RequestTimeout instead"

def aggchainProofGenUseRequestTimeoutHint : List UInt8 :=
  ascii "Use AggchainProofGen.AggkitProverClient.RequestTimeout instead"

def translatorDeprecatedHint : List UInt8 :=
  ascii "Translator parameter is deprecated, remove it from configuration"

def isValidiumModeDeprecatedHint : List UInt8 :=
  ascii "IsValidiumMode parameter is deprecated, remove it from configuration"

def contractVersionsDeprecatedHint : List UInt8 :=
  ascii "ContractVersions parameter is deprecated, remove it from configuration"

def ethermanDeprecatedHint : List UInt8 :=
  ascii "Etherman config is deprecated, remove it from configuration"

def networkConfigDeprecatedHint : List UInt8 :=
  ascii "NetworkConfig is deprecated, use L1NetworkConfig instead"

def l1NetworkConfigUsePolTokenAddrHint : List UInt8 :=
  ascii "Use L1NetworkConfig.POLTokenAddr instead"

def l1NetworkConfigUseRollupAddrHint : List UInt8 := ascii "Use L1NetworkConfig.RollupAddr instead"

def delayBetweenRetriesHint : List UInt8 :=
  ascii "AggSender.DelayBeetweenRetries is deprecated, " ++
    ascii "use AggSender.DelayBetweenRetries instead"

/-- `DeprecatedField`: a pattern of field names, a section when it ends with a dot, and the
reason the error gives. -/
structure DeprecatedField where
  fieldNamePattern : List UInt8
  reason : List UInt8
deriving DecidableEq, Repr

/-- `deprecatedFieldsOnConfig`, in its order. -/
def deprecatedFieldsOnConfig : List DeprecatedField :=
  [⟨ascii "L1Config.polygonBridgeAddr", bridgeAddrSetOnWrongSection⟩,
   ⟨ascii "L2Config.polygonBridgeAddr", bridgeAddrSetOnWrongSection⟩,
   ⟨ascii "AggOracle.EVMSender.URLRPCL2", l2URLHint⟩,
   ⟨ascii "AggSender.URLRPCL2", l2URLHint⟩,
   ⟨ascii "AggSender.BridgeMetadataAsHash", bridgeMetadataAsHashHint⟩,
   ⟨ascii "AggSender.AggLayerURL", aggsenderAgglayerClientHint⟩,
   ⟨ascii "AggSender.AggchainProofURL", aggsenderAggkitProverClientHint⟩,
   ⟨ascii "AggchainProofGen.AggchainProofURL", aggsenderAggkitProverClientHint⟩,
   ⟨ascii "AggSender.UseAgglayerTLS", aggsenderAgglayerClientUseTLSHint⟩,
   ⟨ascii "AggSender.UseAggkitProverTLS", aggsenderAggkitProverClientUseTLSHint⟩,
   ⟨ascii "AggSender.GenerateAggchainProofTimeout", aggsenderUseRequestTimeoutHint⟩,
   ⟨ascii "AggchainProofGen.GenerateAggchainProofTimeout", aggchainProofGenUseRequestTimeoutHint⟩,
   ⟨ascii "Common.IsValidiumMode", isValidiumModeDeprecatedHint⟩,
   ⟨ascii "Common.ContractVersions", contractVersionsDeprecatedHint⟩,
   ⟨ascii "Common.Translator", translatorDeprecatedHint⟩,
   ⟨ascii "Etherman", ethermanDeprecatedHint⟩,
   ⟨ascii "NetworkConfig.L1.PolAddr", l1NetworkConfigUsePolTokenAddrHint⟩,
   ⟨ascii "NetworkConfig.L1.ZkEVMAddr", l1NetworkConfigUseRollupAddrHint⟩,
   ⟨ascii "NetworkConfig", networkConfigDeprecatedHint⟩,
   ⟨ascii "Aggsender.DelayBeetweenRetries", delayBetweenRetriesHint⟩]

/-! ### Matching a key -/

/-- The lower case of an ASCII byte. -/
def asciiToLower (c : UInt8) : UInt8 := if 0x41 ≤ c ∧ c ≤ 0x5A then c + 0x20 else c

/-- Whether a lower-cased pattern matches a lower-cased field name: it is the name, or it names
a section the name is in. -/
def matchesPattern (pattern field : List UInt8) : Bool :=
  pattern == field ||
    if [0x2E].isSuffixOf pattern then pattern.isPrefixOf field
    else (pattern ++ [0x2E]).isPrefixOf field

section Lower

/- `Map(unicode.ToLower, s)`, the path `strings.ToLower` takes for a string with a byte of 0x80
or more. It rewrites each rune by the Unicode tables, which are not among the repository's
files, so it is a parameter: every result below holds for any such map. -/
variable (mapToLower : List UInt8 → List UInt8)

/-- `strings.ToLower`: byte by byte for an ASCII string. -/
def stringsToLower (s : List UInt8) : List UInt8 :=
  if s.all (·.toNat < 0x80) then s.map asciiToLower else mapToLower s

/-- `getDeprecatedField`: the first rule of the table that matches the lower-cased name. -/
def getDeprecatedField (fieldName : List UInt8) : Option DeprecatedField :=
  let field := stringsToLower mapToLower fieldName
  deprecatedFieldsOnConfig.find? fun deprecatedField =>
    matchesPattern (stringsToLower mapToLower deprecatedField.fieldNamePattern) field

end Lower

/-! ### The error -/

/-- `DeprecatedFieldsError`: the map from each rule to the names that matched it, kept as its
entries, one for each rule. -/
structure DeprecatedFieldsError where
  fields : List (DeprecatedField × List (List UInt8))
  nodup : (fields.map Prod.fst).Nodup

/-- `NewErrDeprecatedFields`. -/
def newErrDeprecatedFields : DeprecatedFieldsError := ⟨[], List.nodup_nil⟩

@[simp] theorem fields_newErrDeprecatedFields : newErrDeprecatedFields.fields = [] := rfl

/-- `Fields[rule] = append(Fields[rule], fieldName)` on the entries of the map. -/
def appendField (fieldName : List UInt8) (rule : DeprecatedField) :
    List (DeprecatedField × List (List UInt8)) → List (DeprecatedField × List (List UInt8))
  | [] => [(rule, [fieldName])]
  | (r, names) :: rest =>
    if r = rule then (r, names ++ [fieldName]) :: rest
    else (r, names) :: appendField fieldName rule rest

theorem mem_appendField {fieldName : List UInt8} {rule x : DeprecatedField}
    {fields : List (DeprecatedField × List (List UInt8))} :
    x ∈ (appendField fieldName rule fields).map Prod.fst ↔ x = rule ∨ x ∈ fields.map Prod.fst := by
  induction fields with
  | nil => simp [appendField]
  | cons entry rest ih =>
    obtain ⟨r, names⟩ := entry
    unfold appendField
    split_ifs with same
    · subst same; simp
    · simp only [List.map_cons, List.mem_cons, ih]
      tauto

theorem nodup_appendField (fieldName : List UInt8) (rule : DeprecatedField)
    {fields : List (DeprecatedField × List (List UInt8))} (nodup : (fields.map Prod.fst).Nodup) :
    ((appendField fieldName rule fields).map Prod.fst).Nodup := by
  induction fields with
  | nil => simp [appendField]
  | cons entry rest ih =>
    obtain ⟨r, names⟩ := entry
    rw [List.map_cons, List.nodup_cons] at nodup
    unfold appendField
    split_ifs with same
    · simpa using nodup
    · rw [List.map_cons, List.nodup_cons, mem_appendField]
      exact ⟨by rintro (rfl | old) <;> simp_all, ih nodup.2⟩

/-- `AddDeprecatedField`. -/
def DeprecatedFieldsError.addDeprecatedField (e : DeprecatedFieldsError) (fieldName : List UInt8)
    (rule : DeprecatedField) : DeprecatedFieldsError :=
  ⟨appendField fieldName rule e.fields, nodup_appendField fieldName rule e.nodup⟩

/-- `Fields[rule]`: nil for a rule not in the map. -/
def DeprecatedFieldsError.matchingFields (e : DeprecatedFieldsError) (rule : DeprecatedField) :
    List (List UInt8) :=
  (e.fields.lookup rule).getD []

/-- `strings.Join`. -/
def stringsJoin (sep : List UInt8) : List (List UInt8) → List UInt8
  | [] => []
  | first :: rest => first ++ (rest.map (sep ++ ·)).flatten

/-- An order in which `range` visits a map's entries: Go leaves it unspecified, so it is any
permutation of them. -/
structure EntryOrder (α : Type) where
  visit : List α → List α
  perm : ∀ l, (visit l).Perm l

/-- `DeprecatedFieldsError.Error`, visiting the map in `order`. -/
def DeprecatedFieldsError.error (order : EntryOrder (DeprecatedField × List (List UInt8)))
    (e : DeprecatedFieldsError) : List UInt8 :=
  ascii "found deprecated fields:" ++
    ((order.visit e.fields).map fun entry =>
      ascii "\n\t- " ++ stringsJoin (ascii ", ") entry.2 ++ ascii ": " ++ entry.1.reason).flatten

section Check

variable (mapToLower : List UInt8 → List UInt8)

/-- The loop of `checkDeprecatedFields` from the error `err`. -/
def addDeprecatedFields (err : DeprecatedFieldsError) (keysOnConfig : List (List UInt8)) :
    DeprecatedFieldsError :=
  keysOnConfig.foldl (fun err key =>
    match getDeprecatedField mapToLower key with
    | some forbbidenInfo => err.addDeprecatedField key forbbidenInfo
    | none => err) err

/-- `checkDeprecatedFields`: the error, or nil when no key matched a rule. -/
def checkDeprecatedFields (keysOnConfig : List (List UInt8)) : Option DeprecatedFieldsError :=
  let err := addDeprecatedFields mapToLower newErrDeprecatedFields keysOnConfig
  if 0 < err.fields.length then some err else none

/-- Why `loadString` fails: the deprecated fields, or an error of viper, by its text. -/
inductive LoadError where
  | deprecatedFields (err : DeprecatedFieldsError)
  | viper (text : List UInt8)

/-- `loadString`, given how viper reads and unmarshals the rendered configuration and the keys
`AllKeys` lists. -/
def loadString (readConfig unmarshal : Except (List UInt8) Unit) (allKeys : List (List UInt8)) :
    Except LoadError Unit :=
  match readConfig, unmarshal with
  | .error text, _ => .error (.viper text)
  | .ok (), .error text => .error (.viper text)
  | .ok (), .ok () =>
    match checkDeprecatedFields mapToLower allKeys with
    | some err => .error (.deprecatedFields err)
    | none => .ok ()

/-- The part of `LoadFile` after `LoadFileFromString`: with `allowDeprecatedFields` a
`DeprecatedFieldsError` is logged and dropped. -/
def loadFileResult (allowDeprecatedFields : Bool) (loaded : Except LoadError Unit) :
    Except LoadError Unit :=
  match loaded with
  | .error (.deprecatedFields _) => if allowDeprecatedFields then .ok () else loaded
  | _ => loaded

end Check

/-! ### The grouping of the keys -/

theorem lookup_cons_of_ne {x r : DeprecatedField} (differ : x ≠ r) (names : List (List UInt8))
    (rest : List (DeprecatedField × List (List UInt8))) :
    ((r, names) :: rest).lookup x = rest.lookup x := by
  have differs : (x == r) = false := by simpa using differ
  simp [List.lookup_cons, differs]

theorem lookup_appendField (fieldName : List UInt8) (rule x : DeprecatedField)
    (fields : List (DeprecatedField × List (List UInt8))) :
    ((appendField fieldName rule fields).lookup x).getD [] =
      if x = rule then (fields.lookup x).getD [] ++ [fieldName] else (fields.lookup x).getD [] := by
  induction fields with
  | nil =>
    by_cases same : x = rule
    · subst same; simp [appendField, List.lookup_cons]
    · simp [appendField, lookup_cons_of_ne same, same]
  | cons entry rest ih =>
    obtain ⟨r, names⟩ := entry
    by_cases found : x = r
    · subst found
      by_cases same : x = rule
      · subst same; simp [appendField, List.lookup_cons]
      · simp [appendField, List.lookup_cons, same]
    · by_cases same : r = rule
      · subst same; simp [appendField, lookup_cons_of_ne found, found]
      · simp only [appendField, same, if_false, lookup_cons_of_ne found]
        exact ih

theorem matchingFields_addDeprecatedField (e : DeprecatedFieldsError) (fieldName : List UInt8)
    (rule x : DeprecatedField) :
    (e.addDeprecatedField fieldName rule).matchingFields x =
      if x = rule then e.matchingFields x ++ [fieldName] else e.matchingFields x :=
  lookup_appendField fieldName rule x e.fields

theorem fields_addDeprecatedField_ne_nil (e : DeprecatedFieldsError) (fieldName : List UInt8)
    (rule : DeprecatedField) : (e.addDeprecatedField fieldName rule).fields ≠ [] := by
  obtain ⟨_ | ⟨⟨r, names⟩, rest⟩, _⟩ := e
  · simp [DeprecatedFieldsError.addDeprecatedField, appendField]
  · simp only [DeprecatedFieldsError.addDeprecatedField, appendField]
    split_ifs <;> simp

section Check

variable (mapToLower : List UInt8 → List UInt8)

/-- The loop appends each key to the names of the rule it matches. -/
theorem matchingFields_addDeprecatedFields (err : DeprecatedFieldsError)
    (keys : List (List UInt8)) (rule : DeprecatedField) :
    (addDeprecatedFields mapToLower err keys).matchingFields rule =
      err.matchingFields rule ++ keys.filter (getDeprecatedField mapToLower · = some rule) := by
  induction keys generalizing err with
  | nil => simp [addDeprecatedFields]
  | cons key keys ih =>
    simp only [addDeprecatedFields, List.foldl_cons] at ih ⊢
    rw [ih, List.filter_cons]
    cases found : getDeprecatedField mapToLower key with
    | none => simp
    | some matched =>
      by_cases same : matched = rule
      · subst same; simp [matchingFields_addDeprecatedField]
      · simp [matchingFields_addDeprecatedField, Ne.symm same, same]

/-- The loop leaves the map empty exactly when it starts empty and no key matches. -/
theorem fields_addDeprecatedFields_eq_nil (err : DeprecatedFieldsError)
    (keys : List (List UInt8)) :
    (addDeprecatedFields mapToLower err keys).fields = [] ↔
      err.fields = [] ∧ ∀ key ∈ keys, getDeprecatedField mapToLower key = none := by
  induction keys generalizing err with
  | nil => simp [addDeprecatedFields]
  | cons key keys ih =>
    simp only [addDeprecatedFields, List.foldl_cons] at ih ⊢
    rw [ih]
    cases found : getDeprecatedField mapToLower key with
    | none => simp [found]
    | some matched => simp [found, fields_addDeprecatedField_ne_nil]

/-- `checkDeprecatedFields` fails exactly when some key matches a rule, and then its error
gives each rule exactly the keys it matched, in their order. -/
theorem checkDeprecatedFields_groups (keys : List (List UInt8)) :
    (checkDeprecatedFields mapToLower keys = none ↔
      ∀ key ∈ keys, getDeprecatedField mapToLower key = none) ∧
    ∀ err, checkDeprecatedFields mapToLower keys = some err → ∀ rule,
      err.matchingFields rule = keys.filter (getDeprecatedField mapToLower · = some rule) := by
  have empty := fields_addDeprecatedFields_eq_nil mapToLower newErrDeprecatedFields keys
  simp only [fields_newErrDeprecatedFields, true_and] at empty
  unfold checkDeprecatedFields
  dsimp only
  refine ⟨?_, fun err checked rule => ?_⟩
  · rw [← empty]
    split_ifs with nonempty <;> simp_all [List.length_pos]
  · split_ifs at checked
    obtain rfl := Option.some.inj checked
    rw [matchingFields_addDeprecatedFields]
    rfl

end Check

/-! ### The text of the error -/

theorem exists_split_flatten {l : List (List UInt8)} {x : List UInt8} (member : x ∈ l) :
    ∃ before after, l.flatten = before ++ x ++ after := by
  obtain ⟨s, t, rfl⟩ := List.append_of_mem member
  exact ⟨s.flatten, t.flatten, by simp⟩

theorem exists_split_stringsJoin (sep : List UInt8) {x : List UInt8} {elems : List (List UInt8)}
    (member : x ∈ elems) : ∃ before after, stringsJoin sep elems = before ++ x ++ after := by
  obtain _ | ⟨first, rest⟩ := elems
  · cases member
  rcases List.mem_cons.1 member with rfl | later
  · exact ⟨[], (rest.map (sep ++ ·)).flatten, by simp [stringsJoin]⟩
  · obtain ⟨before, after, split⟩ :=
      exists_split_flatten (List.mem_map_of_mem (sep ++ ·) later)
    exact ⟨first ++ before ++ sep, after, by simp [stringsJoin, split]⟩

/-- Every name the error holds appears in its text, followed by the reason of its rule,
whatever order the map is visited in. -/
theorem error_names_matching_field (order : EntryOrder (DeprecatedField × List (List UInt8)))
    (e : DeprecatedFieldsError) {rule : DeprecatedField} {fieldName : List UInt8}
    (matched : fieldName ∈ e.matchingFields rule) :
    ∃ before middle after, e.error order = before ++ fieldName ++ middle ++ rule.reason ++ after := by
  obtain ⟨names, found, named⟩ : ∃ names, (rule, names) ∈ e.fields ∧ fieldName ∈ names := by
    unfold DeprecatedFieldsError.matchingFields at matched
    cases looked : e.fields.lookup rule with
    | none => simp [looked] at matched
    | some names =>
      obtain ⟨before, after, split, -⟩ := List.lookup_eq_some_iff.1 looked
      exact ⟨names, by simp [split], by simpa [looked] using matched⟩
  obtain ⟨inner, rest, joined⟩ := exists_split_stringsJoin (ascii ", ") named
  have visited := (order.perm e.fields).mem_iff.2 found
  obtain ⟨before, after, split⟩ := exists_split_flatten (List.mem_map_of_mem
    (fun entry : DeprecatedField × List (List UInt8) =>
      ascii "\n\t- " ++ stringsJoin (ascii ", ") entry.2 ++ ascii ": " ++ entry.1.reason) visited)
  refine ⟨ascii "found deprecated fields:" ++ before ++ ascii "\n\t- " ++ inner,
    rest ++ ascii ": ", after, ?_⟩
  rw [DeprecatedFieldsError.error, split]
  simp only [joined, List.append_assoc]

end Aggkit.Config
