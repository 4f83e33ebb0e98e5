import Mathlib.Data.List.Nodup
import LocationService.Settings.BoostPtreeSettings

/-!
# Options of the providers on the command line

The daemon takes the options that `boost::program_options` does not recognise
and stores those of the form `--Provider::key=value` for the provider.  It
looks for the provider's name anywhere in front of the first `=`, and then
cuts the marker, the name and the scope separator out at the first places that
have one of their characters.  Such a place need not exist, and then the
daemon ends with an exception; and a name within another one collects options
that are not its own.

* `storesIntact_iff` tells which options reach exactly their provider.
* `harmless_iff` tells which lists of options are processed without harm.
-/

namespace LocationService

open LocationService.Library (PropertyTree Text)
open LocationService.Library.Text (OutOfRange find findFirstOf erase cutBefore
  cutBehind)

/-- `Configuration` -/
abbrev Configuration := PropertyTree Text Text

/-- `std::map<std::string, Configuration>` -/
abbrev ProviderOptions := Text → Option Configuration

namespace ProviderOptions

def optionMarker : Text := ['-', '-']

def scopeSeparator : Text := [':', ':']

/-- `operator[]` followed by `put`. -/
def put (m : ProviderOptions) (provider key value : Text) : ProviderOptions :=
  fun name =>
    if name = provider then
      some (((m name).getD .empty).put (BoostPtreeSettings.path key) value)
    else m name

/-- The key and the value that an option sets for a provider, if any. -/
def dissect (provider s : Text) : Except OutOfRange (Option (Text × Text)) := do
  let key := cutBefore '=' s
  let value := cutBefore '=' (cutBehind '=' s)
  if find provider key = none then
    return none
  let key ← erase (findFirstOf optionMarker key) optionMarker.length key
  let key ← erase (findFirstOf provider key) provider.length key
  let key ← erase (findFirstOf scopeSeparator key) scopeSeparator.length key
  return some (key, value)

/-- The visitor of the daemon for one option and one provider. -/
def store (provider s : Text) (m : ProviderOptions) :
    Except OutOfRange ProviderOptions := do
  match ← dissect provider s with
  | none => return m
  | some (key, value) => return m.put provider key value

/-- The loop of `Daemon::Configuration::from_command_line_args`. -/
def fromCommandLineArgs (providers options : List Text) :
    Except OutOfRange ProviderOptions :=
  providers.foldlM (fun m provider =>
    options.foldlM (fun m s => store provider s m) m) fun _ => none

/-- The loop of `ProviderDaemon::Configuration::from_command_line_args`. -/
def providerDaemonFromCommandLineArgs (providerName : Text)
    (options : List Text) : Except OutOfRange Configuration :=
  options.foldlM (fun config s => do
    match ← dissect providerName s with
    | none => return config
    | some (key, value) =>
        return config.put (BoostPtreeSettings.path key) value) .empty

/-! ## When an option is dissected -/

/-- The text that a provider's name is looked for in. -/
abbrev named (s : Text) : Text := cutBefore '=' s

theorem dissect_of_absent {provider s : Text}
    (h : ¬ provider <:+: named s) : dissect provider s = .ok none := by
  have hfind := (Library.Text.find_eq_none_iff provider (named s)).mpr h
  unfold dissect
  simp only [hfind, if_true]
  rfl

/-- A name that occurs is cut out, or an exception ends the daemon. -/
theorem dissect_of_occurs {provider s : Text} (h : provider <:+: named s) :
    dissect provider s = (do
      let key ← erase (findFirstOf optionMarker (named s)) 2 (named s)
      let key ← erase (findFirstOf provider key) provider.length key
      let key ← erase (findFirstOf scopeSeparator key) 2 key
      return some (key, cutBefore '=' (cutBehind '=' s))) := by
  have hfind : ¬ find provider (named s) = none := by
    rw [Library.Text.find_eq_none_iff]
    exact not_not_intro h
  unfold dissect
  simp only [hfind, if_false]
  rfl

/-- An option is passed over exactly if the name does not occur in it. -/
theorem dissect_eq_none_iff (provider s : Text) :
    dissect provider s = .ok none ↔ ¬ provider <:+: named s := by
  constructor
  · intro hdissect h
    rw [dissect_of_occurs h] at hdissect
    simp only [bind, Except.bind] at hdissect
    repeat' split at hdissect
    all_goals simp [pure, Except.pure] at hdissect
  · exact dissect_of_absent

/-! ## The loop over options and providers -/

/-- What is set for a provider once an option is dissected. -/
def add : Option (Text × Text) → Option Configuration → Option Configuration
  | none, config => config
  | some (key, value), config =>
      some ((config.getD .empty).put (BoostPtreeSettings.path key) value)

/-- The key and the value of an option that does not throw. -/
def dissected (provider s : Text) : Option (Text × Text) :=
  match dissect provider s with
  | .ok r => r
  | .error _ => none

/-- Everything that is set for a provider. -/
def collected (provider : Text) (options : List Text)
    (config : Option Configuration) : Option Configuration :=
  options.foldl (fun config s => add (dissected provider s) config) config

theorem dissected_of_ok {provider s : Text} {r : Option (Text × Text)}
    (h : dissect provider s = .ok r) : dissected provider s = r := by
  unfold dissected
  rw [h]

theorem store_of_ok {provider s : Text} (h : (dissect provider s).isOk)
    (m : ProviderOptions) :
    store provider s m = .ok (fun name =>
      if name = provider then add (dissected provider s) (m name)
      else m name) := by
  cases hdissect : dissect provider s with
  | error e =>
      rw [hdissect] at h
      simp [Except.isOk, Except.toBool] at h
  | ok r =>
      rw [dissected_of_ok hdissect]
      unfold store
      rw [hdissect]
      cases r with
      | none =>
          show Except.ok m = _
          congr 1
          funext name
          by_cases hname : name = provider <;> simp [hname, add]
      | some entry => rfl

/-- One provider's turn changes the options of this provider only. -/
theorem loop_of_ok {provider : Text} {options : List Text}
    (h : ∀ s ∈ options, (dissect provider s).isOk) (m : ProviderOptions) :
    options.foldlM (fun m s => store provider s m) m = .ok (fun name =>
      if name = provider then collected provider options (m name)
      else m name) := by
  induction options generalizing m with
  | nil =>
      show Except.ok m = _
      congr 1
      funext name
      by_cases hname : name = provider <;> simp [hname, collected]
  | cons s options ih =>
      have hfirst := h s List.mem_cons_self
      rw [List.foldlM_cons, store_of_ok hfirst]
      have hrest := ih (fun s' hs' => h s' (List.mem_cons_of_mem _ hs'))
      apply (hrest _).trans
      congr 1
      funext name
      by_cases hname : name = provider <;> simp [hname, collected]

/-- A provider gets its options once for each of its turns. -/
theorem turns_of_ok {providers options : List Text}
    (h : ∀ provider ∈ providers, ∀ s ∈ options, (dissect provider s).isOk)
    (m : ProviderOptions) :
    providers.foldlM (fun m provider =>
        options.foldlM (fun m s => store provider s m) m) m =
      .ok (fun name =>
        (collected name options)^[providers.count name] (m name)) := by
  induction providers generalizing m with
  | nil => rfl
  | cons provider providers ih =>
      have hrest := ih fun p hp => h p (List.mem_cons_of_mem _ hp)
      rw [List.foldlM_cons, loop_of_ok (h provider List.mem_cons_self)]
      apply (hrest _).trans
      congr 1
      funext name
      by_cases hname : name = provider
      · subst hname
        rw [if_pos rfl, List.count_cons_self, Function.iterate_succ_apply]
      · rw [if_neg hname, List.count_cons_of_ne (Ne.symm hname)]

theorem fromCommandLineArgs_of_ok {providers options : List Text}
    (h : ∀ provider ∈ providers, ∀ s ∈ options, (dissect provider s).isOk) :
    fromCommandLineArgs providers options = .ok (fun name =>
      (collected name options)^[providers.count name] none) :=
  turns_of_ok h fun _ => none

theorem store_isOk {provider s : Text} {m : ProviderOptions}
    (h : (store provider s m).isOk) : (dissect provider s).isOk := by
  cases hdissect : dissect provider s with
  | ok r => rfl
  | error e =>
      unfold store at h
      rw [hdissect] at h
      exact h

theorem loop_isOk {provider : Text} {options : List Text} {m : ProviderOptions}
    (h : (options.foldlM (fun m s => store provider s m) m).isOk) :
    ∀ s ∈ options, (dissect provider s).isOk := by
  induction options generalizing m with
  | nil => simp
  | cons s options ih =>
      rw [List.foldlM_cons] at h
      cases hstore : store provider s m with
      | error e =>
          rw [hstore] at h
          simp [bind, Except.bind, Except.isOk, Except.toBool] at h
      | ok m' =>
          rw [hstore] at h
          have hfirst : (dissect provider s).isOk :=
            store_isOk (m := m) (by rw [hstore]; rfl)
          have hrest := ih h
          simpa [hfirst] using hrest

/-- Whenever the loop returns, no option has thrown for any provider. -/
theorem fromCommandLineArgs_isOk_iff (providers options : List Text) :
    (fromCommandLineArgs providers options).isOk ↔
      ∀ provider ∈ providers, ∀ s ∈ options, (dissect provider s).isOk := by
  constructor
  · unfold fromCommandLineArgs
    generalize (fun _ => none : ProviderOptions) = m
    induction providers generalizing m with
    | nil => simp
    | cons provider providers ih =>
        intro h
        rw [List.foldlM_cons] at h
        cases hturn : options.foldlM (fun m s => store provider s m) m with
        | error e =>
            rw [hturn] at h
            simp [bind, Except.bind, Except.isOk, Except.toBool] at h
        | ok m' =>
            rw [hturn] at h
            have hfirst : ∀ s ∈ options, (dissect provider s).isOk :=
              loop_isOk (m := m) (by rw [hturn]; rfl)
            have hrest := ih m' h
            simpa using ⟨hfirst, hrest⟩
  · intro h
    rw [fromCommandLineArgs_of_ok h]
    rfl

/-- The loop of the provider daemon is one provider's turn. -/
theorem configLoop_eq (provider : Text) (options : List Text)
    (m : ProviderOptions) :
    options.foldlM (fun config s => do
        match ← dissect provider s with
        | none => return config
        | some (key, value) =>
            return config.put (BoostPtreeSettings.path key) value)
        ((m provider).getD .empty) =
      (options.foldlM (fun m s => store provider s m) m).map fun m =>
        (m provider).getD .empty := by
  induction options generalizing m with
  | nil => rfl
  | cons s options ih =>
      rw [List.foldlM_cons, List.foldlM_cons]
      unfold store
      cases dissect provider s with
      | error e => rfl
      | ok r =>
          cases r with
          | none => exact ih m
          | some entry =>
              have hput : ((m.put provider entry.1 entry.2) provider).getD
                  .empty = ((m provider).getD .empty).put
                    (BoostPtreeSettings.path entry.1) entry.2 := by
                simp [put]
              have hrest := ih (m.put provider entry.1 entry.2)
              rw [hput] at hrest
              exact hrest

/-- The provider daemon processes its options like the daemon does for a single
provider. -/
theorem providerDaemonFromCommandLineArgs_eq (provider : Text)
    (options : List Text) :
    providerDaemonFromCommandLineArgs provider options =
      (fromCommandLineArgs [provider] options).map fun m =>
        (m provider).getD .empty := by
  have hsingle : fromCommandLineArgs [provider] options =
      options.foldlM (fun m s => store provider s m) fun _ => none := by
    unfold fromCommandLineArgs
    rw [List.foldlM_cons]
    simp only [List.foldlM_nil, bind_pure]
  rw [hsingle]
  exact configLoop_eq provider options fun _ => none

/-! ## Options of the documented form -/

/-- `--P::K` -/
def keyFor (provider key : Text) : Text :=
  optionMarker ++ (provider ++ (scopeSeparator ++ key))

/-- There is a first character that occurs in the name, and a `:` lies outside
of the stretch of the name's length from there on. -/
def Splits (name rest : Text) : Prop :=
  ∃ i, findFirstOf name rest = some i ∧
    ':' ∈ rest.take i ++ rest.drop (i + name.length)

/-- An option whose key starts with the marker is dissected without an
exception exactly if the rest of its key splits. -/
theorem dissect_isOk_iff {provider s rest : Text}
    (hmarked : named s = optionMarker ++ rest) (h : provider <:+: named s) :
    (dissect provider s).isOk ↔ Splits provider rest := by
  have hmarker : erase (findFirstOf optionMarker (named s)) 2 (named s) =
      .ok rest := by
    rw [hmarked]
    exact Library.Text.erase_front 2 _
  have hscope (text : Text) : (findFirstOf scopeSeparator text).isSome ↔
      ':' ∈ text := by
    rw [Library.Text.findFirstOf_isSome_iff]
    simp [scopeSeparator]
  rw [dissect_of_occurs h, hmarker]
  unfold Splits
  simp only [bind, Except.bind]
  rw [Library.Text.erase_findFirstOf]
  cases findFirstOf provider rest with
  | none => simp [Except.isOk, Except.toBool]
  | some i =>
      simp only [Option.some.injEq, exists_eq_left']
      rw [Library.Text.erase_findFirstOf, ← hscope]
      cases findFirstOf scopeSeparator
          (rest.take i ++ rest.drop (i + provider.length)) <;>
        simp [Except.isOk, Except.toBool, pure, Except.pure]

/-- The key of an option of the documented form, and the value in front of a
second `=`, are what is set for its provider. -/
theorem dissect_keyFor {provider key value : Text} (hprovider : provider ≠ [])
    (hname : '=' ∉ provider) (hkey : '=' ∉ key) :
    dissect provider (keyFor provider key ++ '=' :: value) =
      .ok (some (key, cutBefore '=' value)) := by
  have hplain : '=' ∉ keyFor provider key := by
    simp [keyFor, optionMarker, scopeSeparator, hname, hkey]
  have hnamed : named (keyFor provider key ++ '=' :: value) =
      keyFor provider key := Library.Text.cutBefore_append value hplain
  have hoccurs : provider <:+: named (keyFor provider key ++ '=' :: value) := by
    rw [hnamed]
    exact ⟨optionMarker, scopeSeparator ++ key, by
      simp [keyFor]⟩
  have hmarker : erase (findFirstOf optionMarker (keyFor provider key)) 2
      (keyFor provider key) = .ok (provider ++ (scopeSeparator ++ key)) :=
    Library.Text.erase_front 2 _
  have hcut : erase (findFirstOf provider
      (provider ++ (scopeSeparator ++ key))) provider.length
        (provider ++ (scopeSeparator ++ key)) =
          .ok (scopeSeparator ++ key) := by
    cases provider with
    | nil => exact absurd rfl hprovider
    | cons c provider =>
        rw [List.cons_append,
          Library.Text.findFirstOf_cons List.mem_cons_self,
          Library.Text.erase_front, List.length_cons, List.drop_succ_cons,
          List.drop_left]
  have hseparator : erase (findFirstOf scopeSeparator (scopeSeparator ++ key))
      2 (scopeSeparator ++ key) = .ok key := Library.Text.erase_front 2 _
  rw [dissect_of_occurs hoccurs, hnamed, hmarker]
  simp only [bind, Except.bind]
  rw [hcut]
  simp only
  rw [hseparator, Library.Text.cutBehind_append value hplain]
  rfl

/-- An option `--P::K=V`. -/
structure ProviderOption where
  provider : Text
  key : Text
  value : Text
  key_ne_nil : key ≠ []
  key_plain : '=' ∉ key ∧ '.' ∉ key ∧ ':' ∉ key
  value_line : '\n' ∉ value

namespace ProviderOption

/-- The option as it stands on the command line. -/
def render (o : ProviderOption) : Text :=
  keyFor o.provider o.key ++ '=' :: o.value

/-- The options that a command line should set: each for its provider only,
and the last value of a key counts. -/
def expected (options : List ProviderOption) : ProviderOptions :=
  options.foldl (fun m o => m.put o.provider o.key o.value) fun _ => none

/-- The text of the option is not ambiguous: there is no other `=` in it, and
no other listed provider occurs in its key. -/
structure Unambiguous (providers : List Text) (o : ProviderOption) : Prop where
  name_ne_nil : o.provider ≠ []
  name_plain : '=' ∉ o.provider
  value_plain : '=' ∉ o.value
  alone : ∀ other ∈ providers, other ≠ o.provider →
    ¬ other <:+: keyFor o.provider o.key

theorem named_render (o : ProviderOption) (h : '=' ∉ o.provider) :
    named o.render = keyFor o.provider o.key := by
  apply Library.Text.cutBefore_append
  simp [keyFor, optionMarker, scopeSeparator, h, o.key_plain.1]

theorem expected_apply (options : List ProviderOption) (name : Text) :
    expected options name = options.foldl (fun config o =>
      if o.provider = name then add (some (o.key, o.value)) config
      else config) none := by
  unfold expected
  induction options using List.reverseRecOn with
  | nil => rfl
  | append_singleton options o ih =>
      rw [List.foldl_append, List.foldl_append, List.foldl_cons,
        List.foldl_nil, List.foldl_cons, List.foldl_nil, ← ih]
      by_cases h : o.provider = name
      · rw [put, if_pos h.symm, if_pos h, add]
      · rw [put, if_neg (Ne.symm h), if_neg h]

/-- What should be set for a provider under a key is the value of the last such
option. -/
theorem expected_valueAt (options : List ProviderOption) (name : Text)
    {key : Text} (hne : key ≠ []) (hplain : '.' ∉ key) :
    (expected options name).bind (·.valueAt (BoostPtreeSettings.path key)) =
      options.foldl (fun found o =>
        if o.provider = name ∧ o.key = key then some o.value else found)
        none := by
  rw [expected_apply, BoostPtreeSettings.path_of_notMem hne hplain]
  induction options using List.reverseRecOn with
  | nil => rfl
  | append_singleton options o ih =>
      rw [List.foldl_append, List.foldl_append, List.foldl_cons,
        List.foldl_nil, List.foldl_cons, List.foldl_nil, ← ih]
      by_cases hname : o.provider = name
      · have hpath := BoostPtreeSettings.path_of_notMem o.key_ne_nil
          o.key_plain.2.1
        rw [if_pos hname, add, Option.bind_some, hpath,
          PropertyTree.valueAt_put]
        by_cases hkey : o.key = key
        · simp [hname, hkey]
        · have hother : ¬ key = o.key := Ne.symm hkey
          simp only [List.cons.injEq, and_true, hother, hkey, if_false,
            List.cons_prefix_cons, false_and, and_false]
          cases options.foldl (fun config o =>
              if o.provider = name then add (some (o.key, o.value)) config
              else config) none <;> rfl
      · rw [if_neg hname, if_neg (fun h => hname h.1)]

/-! ## Unambiguous options -/

/-- An unambiguous option is dissected for its provider and passed over for all
the others. -/
theorem Unambiguous.dissect {providers : List Text} {o : ProviderOption}
    (h : o.Unambiguous providers) {provider : Text}
    (hprovider : provider ∈ providers) :
    dissect provider o.render =
      .ok (if o.provider = provider then some (o.key, o.value) else none) := by
  by_cases hname : o.provider = provider
  · subst hname
    rw [if_pos rfl, render, dissect_keyFor h.name_ne_nil h.name_plain o.key_plain.1,
      Library.Text.cutBefore_of_notMem h.value_plain]
  · rw [if_neg hname]
    apply dissect_of_absent
    rw [named_render o h.name_plain]
    exact h.alone provider hprovider (Ne.symm hname)

/-- Unambiguous options are stored for their providers. -/
theorem fromCommandLineArgs_of_unambiguous {providers : List Text}
    {options : List ProviderOption} (hdistinct : providers.Nodup)
    (hlisted : ∀ o ∈ options, o.provider ∈ providers)
    (h : ∀ o ∈ options, o.Unambiguous providers) :
    fromCommandLineArgs providers (options.map render) =
      .ok (expected options) := by
  have hdissect : ∀ provider ∈ providers, ∀ s ∈ options.map render,
      (ProviderOptions.dissect provider s).isOk := by
    intro provider hprovider s hs
    obtain ⟨o, ho, rfl⟩ := List.mem_map.mp hs
    rw [(h o ho).dissect hprovider]
    rfl
  rw [fromCommandLineArgs_of_ok hdissect]
  congr 1
  funext name
  rw [expected_apply]
  by_cases hname : name ∈ providers
  · rw [List.count_eq_one_of_mem hdistinct hname, Function.iterate_one,
      collected, List.foldl_map]
    apply List.foldl_ext
    intro config o ho
    rw [dissected_of_ok ((h o ho).dissect hname)]
    by_cases hown : o.provider = name <;> simp [hown, add]
  · rw [List.count_eq_zero_of_not_mem hname, Function.iterate_zero, id]
    have hnone : ∀ config : Option Configuration, ∀ o ∈ options,
        (if o.provider = name then add (some (o.key, o.value)) config
          else config) = config := by
      intro config o ho
      have hother : ¬ o.provider = name := fun heq => hname (heq ▸ hlisted o ho)
      rw [if_neg hother]
    rw [List.foldl_ext _ (fun config _ => config) none hnone,
      List.foldl_fixed]

/-- What a provider gets of a single option is what it should. -/
structure StoredFor (provider : Text) (o : ProviderOption) : Prop where
  isOk : (dissect provider o.render).isOk
  stored : add (dissected provider o.render) none =
    if o.provider = provider then add (some (o.key, o.value)) none else none

/-- If a single option is stored as it should be, every provider gets what it
should. -/
theorem storedFor_of_stored {providers : List Text} {o : ProviderOption}
    (hdistinct : providers.Nodup)
    (h : fromCommandLineArgs providers [o.render] = .ok (expected [o]))
    {provider : Text} (hprovider : provider ∈ providers) :
    StoredFor provider o := by
  have hdissect : ∀ provider ∈ providers, ∀ s ∈ [o.render],
      (ProviderOptions.dissect provider s).isOk := by
    apply (fromCommandLineArgs_isOk_iff _ _).mp
    rw [h]
    rfl
  refine ⟨hdissect provider hprovider _ List.mem_cons_self, ?_⟩
  have hreturns := h.symm.trans (fromCommandLineArgs_of_ok hdissect)
  have hequal := congrFun (Except.ok.inj hreturns) provider
  rw [expected_apply, List.count_eq_one_of_mem hdistinct hprovider] at hequal
  exact hequal.symm

namespace StoredFor

/-- With an `=` in its name the provider would not be found. -/
theorem name_plain {o : ProviderOption} (h : StoredFor o.provider o) :
    '=' ∉ o.provider := by
  intro hmem
  have hpassed : dissect o.provider o.render = .ok none := by
    apply dissect_of_absent
    intro hoccurs
    exact Library.Text.notMem_cutBefore '=' o.render (hoccurs.subset hmem)
  have hown := h.stored
  rw [dissected_of_ok hpassed, if_pos rfl] at hown
  simp [add] at hown

/-- Of an empty name no character would be found. -/
theorem name_ne_nil {o : ProviderOption} (h : StoredFor o.provider o) :
    o.provider ≠ [] := by
  intro hempty
  have hnamed := named_render o h.name_plain
  have hoccurs : o.provider <:+: named o.render := by
    rw [hempty]
    exact List.nil_infix
  obtain ⟨i, hfound, _⟩ := (dissect_isOk_iff hnamed hoccurs).mp h.isOk
  have hnone : findFirstOf o.provider
      (o.provider ++ (scopeSeparator ++ o.key)) = none := by
    rw [Library.Text.findFirstOf_eq_none_iff, hempty]
    simp
  rw [hnone] at hfound
  cases hfound

/-- From an `=` on the value would be cut off. -/
theorem value_plain {o : ProviderOption} (h : StoredFor o.provider o) :
    '=' ∉ o.value := by
  have hcut : dissect o.provider o.render =
      .ok (some (o.key, cutBefore '=' o.value)) :=
    dissect_keyFor h.name_ne_nil h.name_plain o.key_plain.1
  have hown := h.stored
  rw [dissected_of_ok hcut, if_pos rfl] at hown
  have hvalue := congrArg (fun config : Option Configuration =>
    config.bind (·.valueAt (BoostPtreeSettings.path o.key))) hown
  simp only [add, Option.bind_some, PropertyTree.valueAt_put, if_true,
    Option.some.injEq] at hvalue
  exact (Library.Text.cutBefore_eq_self_iff '=' o.value).mp hvalue

/-- Another provider would get the option if its name occurred. -/
theorem not_occurs {other : Text} {o : ProviderOption} (h : StoredFor other o)
    (hne : other ≠ o.provider) : ¬ other <:+: named o.render := by
  intro hoccurs
  have hnothing := h.stored
  rw [if_neg (Ne.symm hne)] at hnothing
  cases hresult : dissect other o.render with
  | error e =>
      have hok := h.isOk
      rw [hresult] at hok
      simp [Except.isOk, Except.toBool] at hok
  | ok r =>
      rw [dissected_of_ok hresult] at hnothing
      cases r with
      | some entry => simp [add] at hnothing
      | none => exact (dissect_eq_none_iff _ _).mp hresult hoccurs

end StoredFor

/-- An option that is stored as it should be, if it is the only one, is
unambiguous. -/
theorem unambiguous_of_stored {providers : List Text} {o : ProviderOption}
    (hdistinct : providers.Nodup) (hlisted : o.provider ∈ providers)
    (h : fromCommandLineArgs providers [o.render] = .ok (expected [o])) :
    o.Unambiguous providers where
  name_ne_nil := (storedFor_of_stored hdistinct h hlisted).name_ne_nil
  name_plain := (storedFor_of_stored hdistinct h hlisted).name_plain
  value_plain := (storedFor_of_stored hdistinct h hlisted).value_plain
  alone := by
    intro other hother hne
    have hplain := (storedFor_of_stored hdistinct h hlisted).name_plain
    rw [← named_render o hplain]
    exact (storedFor_of_stored hdistinct h hother).not_occurs hne

/-- Every selection of the options is stored as it should be exactly if no
option is ambiguous. -/
theorem storesIntact_iff {providers : List Text} {options : List ProviderOption}
    (hdistinct : providers.Nodup)
    (hlisted : ∀ o ∈ options, o.provider ∈ providers) :
    (∀ selection : List ProviderOption, selection.Sublist options →
      fromCommandLineArgs providers (selection.map render) =
        .ok (expected selection)) ↔
      ∀ o ∈ options, o.Unambiguous providers := by
  constructor
  · intro h o ho
    exact unambiguous_of_stored hdistinct (hlisted o ho)
      (h [o] (List.singleton_sublist.mpr ho))
  · intro h selection hselection
    exact fromCommandLineArgs_of_unambiguous hdistinct
      (fun o ho => hlisted o (hselection.subset ho))
      fun o ho => h o (hselection.subset ho)

/-- The option of a remote provider's name. -/
def nameOfDummy : ProviderOption where
  provider := "remote::Provider@1".toList
  key := "name".toList
  value := "com.lomiri.location.providers.Dummy".toList
  key_ne_nil := by decide
  key_plain := by decide
  value_line := by decide

/-- An option of another provider with the same key. -/
def nameOfGps : ProviderOption :=
  { nameOfDummy with
    provider := "gps::Provider".toList
    value := "gps".toList
    value_line := by decide }

/-- A second value for the key of the remote provider. -/
def nameOfOther : ProviderOption :=
  { nameOfDummy with
    value := "com.lomiri.location.providers.Other".toList
    value_line := by decide }

/-- Two providers, for one of which a key is repeated. -/
theorem storesIntact_iff_at_name :
    fromCommandLineArgs ["remote::Provider@1".toList, "gps::Provider".toList]
        (List.map render [nameOfDummy, nameOfGps, nameOfOther]) =
      .ok (expected [nameOfDummy, nameOfGps, nameOfOther]) := by
  have hunambiguous : ∀ o ∈ [nameOfDummy, nameOfGps, nameOfOther],
      o.Unambiguous ["remote::Provider@1".toList, "gps::Provider".toList] := by
    simp only [List.forall_mem_cons, List.not_mem_nil, false_imp_iff,
      implies_true, and_true]
    refine ⟨?_, ?_, ?_⟩ <;>
      exact ⟨by decide, by decide, by decide, by decide⟩
  exact (storesIntact_iff (by decide) (by decide)).mpr hunambiguous _
    (List.Sublist.refl _)

/-- The option of a bus address, which has an `=` of its own. -/
def busAddress : ProviderOption where
  provider := "remote::Provider@1".toList
  key := "bus".toList
  value := "unix:path=/tmp/bus".toList
  key_ne_nil := by decide
  key_plain := by decide
  value_line := by decide

/-- The address of the bus is cut off. -/
theorem truncates_bus_address :
    ¬ ∀ (providers : List Text) (options : List ProviderOption),
      providers.Nodup → (∀ o ∈ options, o.provider ∈ providers) →
        fromCommandLineArgs providers (options.map render) =
          .ok (expected options) := by
  intro h
  have hstored := h ["remote::Provider@1".toList] [busAddress] (by decide)
    (by decide)
  have hvalue := congrArg (fun r => (r.toOption.bind
    (fun m => m "remote::Provider@1".toList)).bind
      (·.valueAt ["bus".toList])) hstored
  revert hvalue
  decide

end ProviderOption

/-! ## Options of any form -/

/-- The option is of the form `--P::K` or `--P::K=V` for a listed provider. -/
def WellFormed (providers : List Text) (s : Text) : Prop :=
  ∃ provider ∈ providers, ∃ key, key ≠ [] ∧ '=' ∉ key ∧
    (s = keyFor provider key ∨ ∃ value, s = keyFor provider key ++ '=' :: value)

/-- The loop returns, and an option of another form has no effect on it. -/
def Harmless (providers options : List Text) : Prop :=
  (∃ m, fromCommandLineArgs providers options = .ok m) ∧
    ∀ before s after, options = before ++ s :: after →
      ¬ WellFormed providers s →
        fromCommandLineArgs providers (before ++ after) =
          fromCommandLineArgs providers options

/-- A name that occurs in front of the `=` stands in a well formed option, and
the rest of its key splits. -/
def IsHandled (providers : List Text) (provider s : Text) : Prop :=
  provider <:+: named s →
    WellFormed providers s ∧ Splits provider ((named s).drop 2)

theorem WellFormed.marked {providers : List Text} {s : Text}
    (h : WellFormed providers s) :
    named s = optionMarker ++ (named s).drop 2 := by
  obtain ⟨provider, _, key, _, _, hs⟩ := h
  rcases hs with rfl | ⟨value, rfl⟩ <;>
    simp [named, cutBefore, keyFor, optionMarker]

theorem fromCommandLineArgs_returns_iff (providers options : List Text) :
    (∃ m, fromCommandLineArgs providers options = .ok m) ↔
      ∀ provider ∈ providers, ∀ s ∈ options, (dissect provider s).isOk := by
  rw [← fromCommandLineArgs_isOk_iff]
  cases fromCommandLineArgs providers options <;>
    simp [Except.isOk, Except.toBool]

theorem IsHandled.isOk {providers : List Text} {provider s : Text}
    (h : IsHandled providers provider s) : (dissect provider s).isOk := by
  by_cases hoccurs : provider <:+: named s
  · obtain ⟨hform, hsplits⟩ := h hoccurs
    exact (dissect_isOk_iff hform.marked hoccurs).mpr hsplits
  · rw [dissect_of_absent hoccurs]
    rfl

/-- An option that is passed over leaves what is set as it is. -/
theorem collected_passed_over {provider s : Text}
    (h : ¬ provider <:+: named s) (before after : List Text) :
    collected provider (before ++ s :: after) =
      collected provider (before ++ after) := by
  funext config
  unfold collected
  rw [List.foldl_append, List.foldl_append, List.foldl_cons,
    dissected_of_ok (dissect_of_absent h)]
  rfl

/-- Handled options do no harm. -/
theorem harmless_of_handled {providers options : List Text}
    (h : ∀ s ∈ options, ∀ provider ∈ providers,
      IsHandled providers provider s) :
    Harmless providers options := by
  have hok : ∀ provider ∈ providers, ∀ s ∈ options,
      (dissect provider s).isOk :=
    fun provider hprovider s hs => (h s hs provider hprovider).isOk
  refine ⟨(fromCommandLineArgs_returns_iff _ _).mpr hok, ?_⟩
  rintro before s after rfl hform
  have hfewer : ∀ provider ∈ providers, ∀ s' ∈ before ++ after,
      (dissect provider s').isOk := by
    intro provider hprovider s' hs'
    apply hok provider hprovider
    rcases List.mem_append.mp hs' with hbefore | hafter
    · exact List.mem_append_left _ hbefore
    · exact List.mem_append_right _ (List.mem_cons_of_mem _ hafter)
  rw [fromCommandLineArgs_of_ok hok, fromCommandLineArgs_of_ok hfewer]
  congr 1
  funext name
  by_cases hname : name ∈ providers
  · have hpassed : ¬ name <:+: named s := fun hoccurs =>
      hform (h s (by simp) name hname hoccurs).1
    rw [collected_passed_over hpassed]
  · rw [List.count_eq_zero_of_not_mem hname]
    rfl

/-- An option that does no harm, if it is the only one, is handled. -/
theorem handled_of_harmless {providers : List Text} {s : Text}
    (h : Harmless providers [s]) :
    ∀ provider ∈ providers, IsHandled providers provider s := by
  obtain ⟨hreturns, hunchanged⟩ := h
  have hok := (fromCommandLineArgs_returns_iff _ _).mp hreturns
  intro provider hprovider hoccurs
  have hform : WellFormed providers s := by
    by_contra hform
    have hsame := hunchanged [] s [] rfl hform
    rw [List.nil_append, fromCommandLineArgs_of_ok hok,
      fromCommandLineArgs_of_ok (by simp)] at hsame
    have hname := congrFun (Except.ok.inj hsame) provider
    have hnothing : collected provider [] = id := rfl
    obtain ⟨n, hn⟩ : ∃ n, providers.count provider = n + 1 :=
      Nat.exists_eq_succ_of_ne_zero
        (Nat.ne_of_gt (List.count_pos_iff.mpr hprovider))
    rw [hnothing, Function.iterate_id, id, hn,
      Function.iterate_succ_apply'] at hname
    cases hresult : dissect provider s with
    | error e =>
        have hsome := hok provider hprovider s List.mem_cons_self
        rw [hresult] at hsome
        cases hsome
    | ok r =>
        cases r with
        | none => exact (dissect_eq_none_iff _ _).mp hresult hoccurs
        | some entry =>
            rw [collected, List.foldl_cons, List.foldl_nil,
              dissected_of_ok hresult] at hname
            cases hname
  exact ⟨hform, (dissect_isOk_iff hform.marked hoccurs).mp
    (hok provider hprovider s List.mem_cons_self)⟩

/-- Every selection of the options is processed without harm exactly if every
name that occurs in one of them is handled. -/
theorem harmless_iff (providers options : List Text) :
    (∀ selection : List Text, selection.Sublist options →
      Harmless providers selection) ↔
      ∀ s ∈ options, ∀ provider ∈ providers,
        IsHandled providers provider s := by
  constructor
  · intro h s hs
    exact handled_of_harmless (h [s] (List.singleton_sublist.mpr hs))
  · intro h selection hselection
    exact harmless_of_handled fun s hs => h s (hselection.subset hs)

/-- An option that is nothing but the name of a provider ends the daemon. -/
theorem throws_on_missing_key :
    ¬ ∀ providers options : List Text, Harmless providers options := by
  intro h
  obtain ⟨m, hm⟩ := (h ["gps::Provider".toList] ["--gps::Provider".toList]).1
  have hok : (fromCommandLineArgs ["gps::Provider".toList]
      ["--gps::Provider".toList]).isOk := by
    rw [hm]
    rfl
  revert hok
  decide

end ProviderOptions

end LocationService
