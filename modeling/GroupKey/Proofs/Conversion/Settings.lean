import GroupKey.Proofs.Conversion.Input
import GroupKey.Proofs.Environment.Block

/-!
# The two ways to a configuration

A configuration is read from the variables of a process, or through a lookup that somebody gives.
Made as settings, entries of a list are read from the back; looked up in the list, from the front.

* `ofProcess_putAll`, `ofEnvironment_setAll`: after settings a process is read like the list of
  them turned round;
* `ofLookup_firstMatch`: what a lookup in a list leads to;
* `settings_read_alike`: when the two ways lead to the same.
-/

namespace GroupKey

def firstMatch (vars : Variables) : String → Id (Option Bytes) :=
  fun name => pure (vars.lookup (Utf8.encode name))

namespace Config

def ofProcess (vars : Variables) : Except InputError Config :=
  ofEnvironment (.ofBlock vars.block)

theorem ofLookup_firstMatch (vars : Variables) :
    (ofLookup (firstMatch vars)).run = ofValue? (vars.lookup (Utf8.encode "GROUP_ID")) :=
  congrArg Id.run (ofLookup_eq (firstMatch vars))

variable {start settings : Variables}

theorem ofEnvironment_setAll (unset : start.lookup (Utf8.encode "GROUP_ID") = none) :
    ofEnvironment (start.texts.setAll settings.texts) =
      ofValue? (settings.reverse.lookup (Utf8.encode "GROUP_ID")) := by
  have turned : settings.texts.reverse = Variables.texts settings.reverse :=
    List.filterMap_reverse.symm
  have left : (start.texts.setAll settings.texts).value? keyVariable = _ :=
    Environment.value?_setAll start.texts settings.texts "GROUP_ID"
  rw [ofEnvironment, left, turned, Variables.value?_texts, Variables.value?_texts, unset,
    Option.or_none]

theorem ofProcess_putAll (settable : ∀ setting ∈ start ++ settings, Settable setting)
    (unset : start.lookup (Utf8.encode "GROUP_ID") = none) :
    ofProcess (Environment.putAll start settings) =
      ofValue? (settings.reverse.lookup (Utf8.encode "GROUP_ID")) := by
  have left : ∀ setting ∈ Environment.putAll start settings, Settable setting :=
    fun setting listed => settable setting (List.mem_append.mpr (Environment.mem_putAll listed))
  have found : (Environment.ofBlock (Variables.block (Environment.putAll start settings))).value?
      keyVariable = _ := Variables.value?_ofBlock left "GROUP_ID"
  rw [ofProcess, ofEnvironment, found, Environment.lookup_putAll, unset, Option.or_none]

end Config

/-- **When the two ways lead to the same.** A process in which the variable was not set, and in
which settings are then made in turn, reads the same configuration, or meets with the same error, as
a lookup in the list of the settings turned round. So the list need not be turned round if all that
set the variable agree. Settings of other variables, also of those whose names differ in case alone,
make no difference to either way, wherever they stand, and neither does what else was set. It is
all one whether the settings are made in the process or in what has been read from it. -/
theorem settings_read_alike {start settings : Variables}
    (settable : ∀ setting ∈ start ++ settings, Settable setting)
    (unset : start.lookup (Utf8.encode "GROUP_ID") = none) :
    Config.ofProcess (Environment.putAll start settings) =
      (Config.ofLookup (firstMatch settings.reverse)).run ∧
    (Environment.Agree (Utf8.encode "GROUP_ID") settings →
      Config.ofProcess (Environment.putAll start settings) =
        (Config.ofLookup (firstMatch settings)).run) ∧
    (∀ start' settings' : Variables, (∀ setting ∈ start' ++ settings', Settable setting) →
      start'.lookup (Utf8.encode "GROUP_ID") = none →
      settings'.filter (fun setting => setting.1 == Utf8.encode "GROUP_ID") =
        settings.filter (fun setting => setting.1 == Utf8.encode "GROUP_ID") →
      Config.ofProcess (Environment.putAll start' settings') =
        Config.ofProcess (Environment.putAll start settings) ∧
      (Config.ofLookup (firstMatch settings')).run =
        (Config.ofLookup (firstMatch settings)).run) ∧
    Config.ofEnvironment (start.texts.setAll settings.texts) =
      Config.ofProcess (Environment.putAll start settings) := by
  have read := Config.ofProcess_putAll settable unset
  refine ⟨?_, fun agree => ?_, fun start' settings' settable' unset' same => ⟨?_, ?_⟩, ?_⟩
  · rw [read, Config.ofLookup_firstMatch]
  · rw [read, Config.ofLookup_firstMatch, Environment.lookup_reverse agree]
  · have turned : settings'.reverse.filter (fun setting => setting.1 == Utf8.encode "GROUP_ID") =
        settings.reverse.filter (fun setting => setting.1 == Utf8.encode "GROUP_ID") := by
      rw [List.filter_reverse, List.filter_reverse, same]
    rw [read, Config.ofProcess_putAll settable' unset', Environment.lookup_of_filter turned]
  · rw [Config.ofLookup_firstMatch, Config.ofLookup_firstMatch, Environment.lookup_of_filter same]
  · rw [read, Config.ofEnvironment_setAll unset]

/-- Of two settings the process goes by the last and a lookup by the first, unless they agree. What
stands between them, under a name in other letters or one that is no text, can be left out. -/
theorem settings_read_alike_of_two :
    let key := Utf8.encode "GROUP_ID"
    let start : Variables := [(Utf8.encode "HOME", Utf8.encode "/root")]
    let between : Variables := [(Utf8.encode "group_id", Utf8.encode "zz"), ([0xFF], [])]
    let settings : Variables := (key, Utf8.encode "00") :: between ++ [(key, [0xC3])]
    let agreed : Variables := (key, Utf8.encode "00") :: between ++ [(key, Utf8.encode "00")]
    (∀ setting ∈ start ++ settings, Settable setting) ∧
    (∀ setting ∈ start ++ agreed, Settable setting) ∧ start.lookup key = none ∧
    Config.ofProcess (Environment.putAll start settings) = .error (.notUnicode "GROUP_ID") ∧
    (Config.ofLookup (firstMatch settings)).run = .ok (.ofKey "00") ∧
    Config.ofProcess (Environment.putAll start agreed) = .ok (.ofKey "00") ∧
    Config.ofProcess (Environment.putAll [] [(key, Utf8.encode "00"), (key, [0xC3])]) =
      Config.ofProcess (Environment.putAll start settings) ∧
    Config.ofEnvironment (start.texts.setAll settings.texts) =
      .error (.notUnicode "GROUP_ID") := by
  intro key start between settings agreed
  have settable : ∀ setting ∈ start ++ settings, Settable setting := by decide
  have settable' : ∀ setting ∈ start ++ agreed, Settable setting := by decide
  have unset : start.lookup key = none := by decide
  have agree : Environment.Agree key agreed := by
    intro v w listed listed'
    have values : ∀ setting ∈ agreed, setting.1 = key → setting.2 = Utf8.encode "00" := by decide
    exact (values _ listed rfl).trans (values _ listed' rfl).symm
  obtain ⟨turned, _, unmoved, kept⟩ := settings_read_alike settable unset
  have refused : Config.ofProcess (Environment.putAll start settings) =
    .error (.notUnicode "GROUP_ID") := turned.trans rfl
  have alone := unmoved [] [(key, Utf8.encode "00"), (key, [0xC3])] (by decide) rfl (by decide)
  have straight := (settings_read_alike settable' unset).2.1 agree
  exact ⟨settable, settable', unset, refused, rfl, straight.trans rfl, alone.1,
    kept.trans refused⟩

end GroupKey
