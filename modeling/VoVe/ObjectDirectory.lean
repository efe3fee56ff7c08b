import Mathlib.Data.Nat.Notation
import Mathlib.Logic.Function.Basic

set_option autoImplicit false

namespace VoVe.ObjectDirectory

abbrev Directory (Name Object : Type) := Name → Option Object

variable {Name Object : Type} (directory : Directory Name Object)

def At (object : Object) (name : Name) : Prop:=
 ∀other,directory other = some object ↔ other = name

def Gone (object : Object) : Prop := ∀name,directory name≠some object

section Place
variable {directory : Directory Name Object} {object : Object} {name : Name}

lemma At.name_eq (h:At directory object name) {elsewhere : Name}
 (hheld:directory elsewhere=some object) : elsewhere=name:=
 (h elsewhere).mp hheld

lemma At.congr {after : Directory Name Object} (h:At directory object name)
 (hiff:∀other,after other=some object ↔ directory other=some object):
 At after object name:=
 fun other=>(hiff other).trans (h other)

def Stands (directory : Directory Name Object) (object : Object) (place : Option Name) : Prop:=
 ∀name,directory name = some object ↔ place = some name

lemma stands_some : Stands directory object (some name) ↔ At directory object name:=by
 simp only [Stands,At,Option.some.injEq,eq_comm]

lemma stands_none : Stands directory object none ↔ Gone directory object:=by
 simp [Stands,Gone]

lemma Stands.congr {after : Directory Name Object} {place : Option Name}
 (h:Stands directory object place)
 (hiff:∀other,after other=some object ↔ directory other=some object):
 Stands after object place:=
 fun other=>(hiff other).trans (h other)

end Place

section Changes
variable [DecidableEq Name]

/-- A rename of one object that found its new name free. -/
structure Renames (object : Object) (source destination : Name)
  (before after : Directory Name Object) : Prop where
 held : before source=some object
 free : before destination=none
 moved : after=Function.update (Function.update before source none) destination (some object)

structure Removes (object : Object) (name : Name) (before after : Directory Name Object):
  Prop where
 held : before name=some object
 removed : after=Function.update before name none

variable {before after : Directory Name Object} {object other : Object}
 {source destination name : Name}

section
variable (h:Renames object source destination before after)
include h

lemma Renames.source_ne : destination≠source:=by
 rintro rfl
 have hheld:=h.held
 rw [h.free] at hheld
 cases hheld

lemma Renames.at_destination
 (hat:At before object source) : At after object destination:=by
 intro name
 rw [h.moved]
 by_cases hname:name=destination
 · simp [hname]
 · rw [Function.update_of_ne hname]
   by_cases hsource:name=source
   · simp [hsource,h.source_ne.symm]
   · rw [Function.update_of_ne hsource,hat name]
     simp [hname,hsource]

lemma Renames.at_new : after destination=some object:=by
 rw [h.moved,Function.update_self]

lemma Renames.at_old : after source=none:=by
 rw [h.moved,Function.update_of_ne h.source_ne.symm,Function.update_self]

lemma Renames.elsewhere
 (hsource:name≠source) (hdestination:name≠destination) : after name=before name:=by
 rw [h.moved,Function.update_of_ne hdestination,Function.update_of_ne hsource]

/-- What a name stands for after a rename it stood for before, or its object's old
  name did. -/
lemma Renames.comes
 (hheld:after name=some other) : before name=some other ∨
  (name=destination ∧ before source=some other):=by
 by_cases hdestination:name=destination
 · right
   rw [hdestination,h.at_new] at hheld
   rw [h.held,hheld]
   exact ⟨hdestination,rfl⟩
 · left
   by_cases hsource:name=source
   · rw [hsource,h.at_old] at hheld
     cases hheld
   · rw [h.elsewhere hsource hdestination] at hheld
     exact hheld

end

lemma Removes.at_name (h:Removes object name before after) : after name=none:=by
 rw [h.removed,Function.update_self]

lemma Removes.elsewhere {elsewhere : Name} (h:Removes object name before after)
 (hne:elsewhere≠name) : after elsewhere=before elsewhere:=by
 rw [h.removed,Function.update_of_ne hne]

lemma Removes.comes {elsewhere : Name} (h:Removes object name before after)
 (hheld:after elsewhere=some other) : before elsewhere=some other:=by
 by_cases hne:elsewhere=name
 · rw [hne,h.at_name] at hheld
   cases hheld
 · rw [h.elsewhere hne] at hheld
   exact hheld

lemma Renames.iff_other (h:Renames object source destination before after)
 (hne:other≠object) (name : Name) : after name=some other ↔ before name=some other:=by
 rw [h.moved]
 by_cases hd:name=destination
 · rw [hd,Function.update_self,h.free]
   simp [hne.symm]
 · rw [Function.update_of_ne hd]
   by_cases hs:name=source
   · rw [hs,Function.update_self,h.held]
     simp [hne.symm]
   · rw [Function.update_of_ne hs]

lemma Removes.iff_other (h:Removes object name before after) (hne:other≠object)
 (elsewhere : Name) : after elsewhere=some other ↔ before elsewhere=some other:=by
 rw [h.removed]
 by_cases hname:elsewhere=name
 · rw [hname,Function.update_self,h.held]
   simp [hne.symm]
 · rw [Function.update_of_ne hname]

lemma Removes.gone (h:Removes object name before after) (hat:At before object name):
 Gone after object:=by
 intro elsewhere
 rw [h.removed]
 by_cases hname:elsewhere=name
 · simp [hname]
 · rw [Function.update_of_ne hname]
   exact fun hheld=>hname (hat.name_eq hheld)

structure Carries (object : Object) (source : Name) (place : Option Name)
  (before after : Directory Name Object) : Prop where
 arrives : At before object source → Stands after object place
 others : ∀other≠object,∀name,after name=some other ↔ before name=some other

lemma Renames.carries (h:Renames object source destination before after):
  Carries object source (some destination) before after where
 arrives hat := stands_some.mpr (h.at_destination hat)
 others _ hne := h.iff_other hne

lemma Removes.carries (h:Removes object name before after):
  Carries object name none before after where
 arrives hat := stands_none.mpr (h.gone hat)
 others _ hne := h.iff_other hne

end Changes

end VoVe.ObjectDirectory
