import Powerlink.Xdc.Kept

/-! # The two value modes

A mode says which of an actual and a default value goes first, in an object, in a parameter and in
a template, and a value is looked up through all three.  Where every element has at most one of the
two values, the modes give the same file or the same error (`resolveData_mode`). -/

namespace PowerlinkXdc

open Model

/-! ### Elements with one value -/

/-- At most one of the two values is given. -/
def AtMostOne {α : Type} (actualValue defaultValue : Option α) : Prop :=
  actualValue = none ∨ defaultValue = none

def Model.Attributes.OneValue (model : Attributes) : Prop :=
  AtMostOne model.actualValue model.defaultValue

def Model.Parameter.OneValue (param : Parameter) : Prop :=
  AtMostOne param.actualValue param.defaultValue

/-- An object has one value, and so has each of its sub-objects. -/
@[mk_iff]
structure Model.Object.OneValues (model : Object) : Prop where
  own : model.toAttributes.OneValue
  subObject : ∀ sub ∈ model.subObject, sub.toAttributes.OneValue

/-- The parameters and the templates of an application process. -/
@[mk_iff]
structure Model.ApplicationProcess.OneValues (process : ApplicationProcess) : Prop where
  parameter : ∀ param ∈ process.parameterList.parameter, param.OneValue
  template : ∀ list ∈ process.templateList, ∀ template ∈ list.parameterTemplate,
    template.OneValue

/-- Every element of a container that can have an actual and a default value has at most one. -/
structure Model.Iso15745ProfileContainer.OneValues (container : Iso15745ProfileContainer) :
    Prop where
  object : ∀ profile ∈ container.profile, ∀ layers ∈ profile.profileBody.applicationLayers,
    ∀ model ∈ layers.objectList.object, model.OneValues
  process : ∀ profile ∈ container.profile,
    ∀ process ∈ profile.profileBody.applicationProcess, process.OneValues

/-- Without a choice, both modes choose the same. -/
theorem ValueMode.choose_of_atMostOne {α : Type} {actualValue defaultValue : Option α}
    (h : AtMostOne actualValue defaultValue) :
    ValueMode.actual.choose actualValue defaultValue =
      ValueMode.default.choose actualValue defaultValue := by
  unfold ValueMode.choose
  rcases h with rfl | rfl
  · simp
  · simp

/-! ### The maps -/

theorem mem_of_lookupLast {α : Type} {map : List (String × α)} {key : String} {a : α}
    (h : lookupLast map key = some a) : (key, a) ∈ map := by
  obtain ⟨before, after, hmap, -⟩ := List.lookup_eq_some_iff.mp h
  rw [← List.mem_reverse, hmap]
  exact List.mem_append_right _ List.mem_cons_self

theorem oneValue_of_mem_paramMap {appProcess : Option ApplicationProcess}
    (h : ∀ process ∈ appProcess, process.OneValues) {entry : String × Parameter}
    (hentry : entry ∈ paramMap appProcess) : entry.2.OneValue := by
  cases appProcess with
  | none => exact absurd hentry List.not_mem_nil
  | some process =>
      obtain ⟨param, hparam, rfl⟩ := List.mem_map.mp hentry
      exact (h process rfl).parameter param hparam

/-- A template is entered with the same value, or left out in both modes. -/
theorem templateMap_mode {appProcess : Option ApplicationProcess}
    (h : ∀ process ∈ appProcess, process.OneValues) :
    templateMap appProcess .actual = templateMap appProcess .default := by
  unfold templateMap
  cases hlist : appProcess.bind (fun p => p.templateList) with
  | none => rfl
  | some list =>
      obtain ⟨process, hprocess, htemplates⟩ := Option.bind_eq_some_iff.mp hlist
      apply List.filterMap_congr
      intro template htemplate
      have hone : template.OneValue :=
        (h process hprocess).template list htemplates template htemplate
      rw [ValueMode.choose_of_atMostOne hone]

/-! ### Values behind references -/

section references

variable {params : List (String × Parameter)} (hparams : ∀ entry ∈ params, entry.2.OneValue)
  (templates : List (String × Value))

theorem resolveValueFromParam_mode {param : Parameter} (h : param.OneValue) :
    resolveValueFromParam param .actual templates =
      resolveValueFromParam param .default templates := by
  unfold resolveValueFromParam
  rw [ValueMode.choose_of_atMostOne h]

include hparams

/-- A reference that is missing or leads nowhere has no value in either mode. -/
theorem referencedValue_mode (idRef : Option String) :
    referencedValue idRef .actual params templates =
      referencedValue idRef .default params templates := by
  unfold referencedValue
  cases hparam : idRef.bind (lookupLast params) with
  | none => rfl
  | some param =>
      obtain ⟨key, -, hkey⟩ := Option.bind_eq_some_iff.mp hparam
      have hone : param.OneValue := hparams (key, param) (mem_of_lookupLast hkey)
      exact resolveValueFromParam_mode templates hone

theorem getValueStrForObject_mode {model : Attributes} (h : model.OneValue) :
    getValueStrForObject model .actual params templates =
      getValueStrForObject model .default params templates := by
  unfold getValueStrForObject
  rw [ValueMode.choose_of_atMostOne h, referencedValue_mode hparams]

/-- The parent's parameter is asked in both modes, or in neither. -/
theorem getValueStrForSubobject_mode {model : Attributes} (h : model.OneValue)
    (parentUniqueIdRef : Option String) (subIndex : UInt8) :
    getValueStrForSubobject model .actual params templates parentUniqueIdRef subIndex =
      getValueStrForSubobject model .default params templates parentUniqueIdRef subIndex := by
  unfold getValueStrForSubobject
  rw [getValueStrForObject_mode hparams templates h, referencedValue_mode hparams]

theorem objectData_mode {model : Attributes} (h : model.OneValue) :
    objectData model .actual params templates = objectData model .default params templates := by
  unfold objectData
  rw [getValueStrForObject_mode hparams templates h]

/-! ### Objects -/

theorem resolveSubObject_mode (parentUniqueIdRef : Option String) {model : SubObject}
    (h : model.toAttributes.OneValue) :
    resolveSubObject parentUniqueIdRef params templates .actual model =
      resolveSubObject parentUniqueIdRef params templates .default model := by
  have hvalue := getValueStrForSubobject_mode hparams templates h parentUniqueIdRef
  unfold resolveSubObject
  simp only [hvalue]

theorem resolveObject_mode {model : Object} (h : model.OneValues) :
    resolveObject params templates .actual model =
      resolveObject params templates .default model := by
  have hsubObjects : model.subObject.mapM
      (resolveSubObject model.uniqueIdRef params templates .actual) =
        model.subObject.mapM (resolveSubObject model.uniqueIdRef params templates .default) := by
    apply Collect.mapM_congr
    intro sub hsub
    exact resolveSubObject_mode hparams templates model.uniqueIdRef (h.subObject sub hsub)
  unfold resolveObject
  rw [hsubObjects, objectData_mode hparams templates h.own]

theorem resolveObjectDictionary_mode {appLayers : ApplicationLayers}
    (h : ∀ model ∈ appLayers.objectList.object, model.OneValues) :
    resolveObjectDictionary appLayers params templates .actual =
      resolveObjectDictionary appLayers params templates .default := by
  have hobjects : appLayers.objectList.object.mapM (resolveObject params templates .actual) =
      appLayers.objectList.object.mapM (resolveObject params templates .default) := by
    apply Collect.mapM_congr
    intro model hmodel
    exact resolveObject_mode hparams templates (h model hmodel)
  unfold resolveObjectDictionary
  rw [hobjects]

end references

/-! ### The whole file -/

/-- The mode reaches the template map and the object dictionary, and no other pass. -/
theorem resolveProfiles_mode {deviceProfile : Option Iso15745Profile}
    {appLayers : ApplicationLayers} (commProfile : Iso15745Profile)
    (hprocess : ∀ profile ∈ deviceProfile,
      ∀ process ∈ profile.profileBody.applicationProcess, process.OneValues)
    (hobjects : ∀ model ∈ appLayers.objectList.object, model.OneValues) :
    resolveProfiles deviceProfile commProfile appLayers .actual =
      resolveProfiles deviceProfile commProfile appLayers .default := by
  have happ : ∀ process ∈ (deviceProfile.map (fun p => p.profileBody)).bind
      (fun b => b.applicationProcess), process.OneValues := by
    intro process hmem
    obtain ⟨body, hbody, hprocess'⟩ := Option.bind_eq_some_iff.mp hmem
    obtain ⟨profile, hprofile, rfl⟩ := Option.map_eq_some_iff.mp hbody
    exact hprocess profile hprofile process hprocess'
  have hdictionary := resolveObjectDictionary_mode
    (fun _ hentry => oneValue_of_mem_paramMap happ hentry)
    (templateMap ((deviceProfile.map (fun p => p.profileBody)).bind
      (fun b => b.applicationProcess)) .default) hobjects
  unfold resolveProfiles
  simp only [templateMap_mode happ, hdictionary]

/-- The modes differ only where an element has both values. -/
theorem resolveData_mode {container : Iso15745ProfileContainer} (h : container.OneValues) :
    resolveData container .actual = resolveData container .default := by
  unfold resolveData
  cases hcomm : container.profile.find? (fun p => p.profileBody.applicationLayers.isSome) with
  | none => rfl
  | some commProfile =>
      cases hlayers : commProfile.profileBody.applicationLayers with
      | none => simp only [hlayers]
      | some appLayers =>
          simp only [hlayers]
          have hobjects := h.object commProfile (List.mem_of_find?_eq_some hcomm) appLayers hlayers
          apply resolveProfiles_mode commProfile _ hobjects
          intro profile hprofile
          exact h.process profile (List.mem_of_find?_eq_some hprofile)

/-- A variable and the count of an array that both have their value from one template, an element
whose reference leads nowhere, and one with a value of its own. -/
def templateContainer : Iso15745ProfileContainer :=
  let parameter (uniqueId : String) (templateIdRef : Option String) (value : Option Value) :
      Parameter :=
    { uniqueId := uniqueId
      access := none
      support := none
      persistent := false
      offset := none
      multiplier := none
      templateIdRef := templateIdRef
      labels := {}
      dataType := .usint
      actualValue := none
      defaultValue := value
      allowedValues := none }
  let attributes (objectType : String) (uniqueIdRef actualValue : Option String) : Attributes :=
    { name := "Sample"
      objectType := objectType
      dataType := some "0005"
      lowLimit := none
      highLimit := none
      accessType := none
      defaultValue := none
      actualValue := actualValue
      denotation := none
      pdoMapping := none
      objFlags := none
      uniqueIdRef := uniqueIdRef }
  sampleContainer none
    (some
      { dataTypeList := none
        functionTypeList := none
        functionInstanceList := none
        templateList := some ⟨[parameter "t1" none (some { value := "1" })]⟩
        parameterList := ⟨[parameter "p1" (some "t1") none]⟩
        parameterGroupList := none })
    [{ attributes "7" (some "p1") none with
        index := "2000"
        rangeSelector := none
        subObject := [] },
      { attributes "8" (some "p1") none with
        index := "2001"
        rangeSelector := none
        subObject :=
          [{ attributes "7" none none with subIndex := "00" },
            { attributes "7" (some "p2") none with subIndex := "01" },
            { attributes "7" (some "p1") (some "3") with subIndex := "02" }] }]

theorem oneValues_templateContainer : templateContainer.OneValues := by
  unfold templateContainer sampleContainer
  constructor
  · simp [AtMostOne, Attributes.OneValue, Object.oneValues_iff]
  · simp [AtMostOne, Parameter.OneValue, ApplicationProcess.oneValues_iff]

theorem resolveData_mode_template :
    ∃ file, resolveData templateContainer .actual = .ok file ∧
      resolveData templateContainer .default = .ok file ∧
      file.objectDictionary.objects.map (fun o => (o.data, o.subObjects.map (fun s => s.data))) =
        [(some "1", []), (none, [some "1", none, some "3"])] := by
  have hfile : resolveData templateContainer .default = .ok _ := rfl
  exact ⟨_, (resolveData_mode oneValues_templateContainer).trans hfile, hfile, rfl⟩

end PowerlinkXdc
