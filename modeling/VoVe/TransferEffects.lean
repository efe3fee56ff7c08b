import VoVe.TransferAccounts

set_option autoImplicit false

namespace VoVe.TransferEffects
open ByteCodec TransferTransaction
open ObjectDirectory TransferWorld TransferAccounts

variable {start files after : Files} {approved : List (Bytes × Bytes)} {identity : Bytes}
 {kind : FileTransferKind} {phase : FileTransferPhase} {item : FileTransferItem}
 {o : FileObject} {source destination name : Bytes}

section
variable (h:ContentKept start files identity phase item)
include h

lemma content_renamed
 (hmoves:Renames o source destination files after)
 (htemp:item.destinationState=.tempReserved → source≠tempKey item)
 (hpublished:item.destinationState=.published →
  after (destinationKey item)=files (destinationKey item)):
 ContentKept start after identity phase item:=by
 refine h.frame ?_ hpublished
 intro key other hheld
 obtain hbefore | ⟨-,hbefore⟩:=hmoves.comes hheld
 · exact ⟨key,hbefore,fun _ hsame=>hsame⟩
 · exact ⟨source,hbefore,fun hstate hsame=>absurd hsame (htemp hstate)⟩

lemma content_removed
 (hremoves:Removes o name files after) (hname:name≠destinationKey item):
 ContentKept start after identity phase item:=by
 refine h.frame ?_ fun _=>hremoves.elsewhere hname.symm
 intro key other hheld
 exact ⟨key,hremoves.comes hheld,fun _ hsame=>hsame⟩

lemma content_streamed
 (happart:KeysApart item) {held : Option FileObject}
 (hafter:after=Function.update files (tempKey item) held)
 (hready:item.destinationState≠.contentReady):
 ContentKept start after identity phase item:=by
 constructor
 · intro hphase hstate key other hheld hidentity
   by_cases hkey:key=tempKey item
   · exact hkey
   · rw [hafter,Function.update_of_ne hkey] at hheld
     exact h.reserved hphase hstate key other hheld hidentity
 · intro _ hstate
   exact absurd hstate hready
 · intro hstate
   rw [hafter,Function.update_of_ne happart.tempDestination.symm]
   exact h.published hstate

end

section
variable (h:SourceKept start files identity .none item)
include h

lemma genuine_of_expected
 (hunpublished:item.destinationState≠.published)
 (hlocation:item.sourceLocation=.original)
 (hexpected:o.identity=identityOf item.currentSourceSnapshot)
 (hheld:files (sourceKey item)=some o) (other : FileObject)
 (hother:start (sourceKey item)=some other) : other=o ∧ other.identity=identity:=by
 have hcurrent:=h.current (.inl hunpublished)
 by_cases hidentity:other.identity=identity
 · have hplaced:=h.placed other ⟨hother,hidentity⟩
   unfold SourcePlaced at hplaced
   rw [hlocation] at hplaced
   obtain hat | ⟨hno,-⟩ | ⟨hno,-⟩:=hplaced
   · rw [hat] at hheld
     exact ⟨Option.some.inj hheld,hidentity⟩
   · cases hno
   · cases hno
 · have hat:=h.foreign other hother hidentity
   rw [hat] at hheld
   rw [Option.some.inj hheld,hexpected,hcurrent] at hidentity
   exact absurd rfl hidentity

lemma source_staged
 (hlocation:item.sourceLocation=.original) (hstrategy:item.strategy=.moveStream)
 (hunpublished:item.destinationState≠.published)
 (hexpected:o.identity=identityOf item.currentSourceSnapshot)
 (hmoves:Renames o (sourceKey item) (stagedKey item) files after):
 SourceKept start after identity .stageSource item:=by
 have hgenuine:=fun other hother =>
  genuine_of_expected h hunpublished hlocation hexpected hmoves.held other hother
 constructor
 · intro other hother hforeign
   exact absurd (hgenuine other hother).2 hforeign
 · exact h.current
 · intro other hother
   unfold SourcePlaced
   rw [hlocation,(hgenuine other hother.1).1]
   exact .inr (.inl ⟨rfl,hmoves.at_new⟩)
 · intro hno
   exact absurd hstrategy hno

lemma source_movedAtomically
 (happart:KeysApart item) (hlocation:item.sourceLocation=.original)
 (hunpublished:item.destinationState≠.published)
 (hexpected:o.identity=identityOf item.currentSourceSnapshot)
 (hmoves:Renames o (sourceKey item) (destinationKey item) files after):
 SourceKept start after identity .atomicMove item:=by
 have hgenuine:=fun other hother =>
  genuine_of_expected h hunpublished hlocation hexpected hmoves.held other hother
 constructor
 · intro other hother hforeign
   exact absurd (hgenuine other hother).2 hforeign
 · exact h.current
 · intro other hother
   unfold SourcePlaced
   rw [hlocation,(hgenuine other hother.1).1]
   exact .inr (.inr ⟨rfl,hmoves.at_new⟩)
 · intro hstrategy
   rw [hmoves.elsewhere happart.sourceStaged.symm happart.stagedDestination]
   exact h.unstaged hstrategy

lemma source_restored
 (hlocation:item.sourceLocation=.staged) (hstrategy:item.strategy=.moveStream)
 (hmoves:Renames o (stagedKey item) (sourceKey item) files after):
 SourceKept start after identity .restoreStagedSource item:=by
 constructor
 · intro other hother hforeign
   have hat:=h.foreign other hother hforeign
   rw [hmoves.free] at hat
   cases hat
 · exact h.current
 · intro other hother
   have hplaced:=h.placed other hother
   unfold SourcePlaced at hplaced ⊢
   rw [hlocation] at hplaced ⊢
   obtain ⟨hno,-⟩ | ⟨-,hat | ⟨hno,-⟩⟩:=hplaced
   · cases hno
   · rw [hmoves.held] at hat
     rw [←Option.some.inj hat]
     exact .inl ⟨rfl,hmoves.at_new⟩
   · cases hno
 · intro hno
   exact absurd hstrategy hno

lemma source_deleted
 (happart:KeysApart item) (hlocation:item.sourceLocation=.staged)
 (hstrategy:item.strategy=.moveStream)
 (hremoves:Removes o (stagedKey item) files after):
 SourceKept start after identity .deleteSource item:=by
 have hsource:=hremoves.elsewhere happart.sourceStaged
 constructor
 · intro other hother hforeign
   rw [hsource]
   exact h.foreign other hother hforeign
 · exact h.current
 · intro other hother
   have hplaced:=h.placed other hother
   unfold SourcePlaced at hplaced ⊢
   rw [hlocation] at hplaced ⊢
   rw [hsource]
   obtain ⟨hno,-⟩ | ⟨hgone,-⟩:=hplaced
   · cases hno
   · exact .inr ⟨hgone,.inr ⟨rfl,hremoves.at_name⟩⟩
 · intro hno
   exact absurd hstrategy hno

end

lemma replaced_filled {step : FileTransferStep}
 (h:ReplacedKept start files approved kind .none item)
 (hfree:files (destinationKey item)=none)
 (hbackup:after (backupKey item)=files (backupKey item))
 (hsettled:item.overwriteState≠.authorized):
 ReplacedKept start after approved kind step item:=by
 refine ⟨?_,h.authorized,fun _=>hsettled⟩
 intro other hother
 obtain hat | ⟨hgiven,hrest⟩:=h.kept other hother
 · rw [hfree] at hat
   cases hat
 · right
   refine ⟨hgiven,?_⟩
   rw [hbackup]
   cases hstate:item.overwriteState with
   | none=>
    rw [hstate] at hrest
    exact hrest
   | authorized=>exact absurd hstate hsettled
   | evacuated=>
    rw [hstate] at hrest
    obtain hbacked | ⟨hno,-⟩:=hrest
    · exact .inl hbacked
    · cases hno
   | evacuatedUnexpected=>
    rw [hstate] at hrest
    obtain hbacked | ⟨hno,-⟩:=hrest
    · exact .inl hbacked
    · cases hno

section
variable (h:ReplacedKept start files approved kind .none item)
include h

lemma replaced_evacuated
 (hstate:item.overwriteState=.authorized)
 (hexpected:o.identity=identityOf item.overwriteDestinationSnapshot)
 (hmoves:Renames o (destinationKey item) (backupKey item) files after):
 ReplacedKept start after approved kind .evacuateOverwriteDestination item:=by
 refine ⟨?_,h.authorized,?_⟩
 · intro other hother
   obtain hat | ⟨-,hrest⟩:=h.kept other hother
   · rw [hmoves.held] at hat
     rw [←Option.some.inj hat]
     unfold DestinationKept
     rw [hstate,hexpected]
     exact .inr ⟨h.authorized hstate,rfl,rfl,hmoves.at_new⟩
   · rw [hstate] at hrest
     cases hrest.1
 · rintro (hno | hno)
   · cases hno
   · cases hno

lemma replaced_restored
 (hstate:item.overwriteState=.evacuated ∨ item.overwriteState=.evacuatedUnexpected)
 (hmoves:Renames o (backupKey item) (destinationKey item) files after):
 ReplacedKept start after approved kind .restoreOverwriteDestination item:=by
 refine ⟨?_,h.authorized,?_⟩
 · intro other hother
   left
   have hbacked:files (backupKey item)=some other:=by
    obtain hat | ⟨-,hrest⟩:=h.kept other hother
    · rw [hmoves.free] at hat
      cases hat
    · obtain hstate | hstate:=hstate
      · rw [hstate] at hrest
        obtain ⟨-,hbacked⟩ | ⟨hno,-⟩:=hrest
        · exact hbacked
        · cases hno
      · rw [hstate] at hrest
        obtain ⟨-,hbacked⟩ | ⟨hno,-⟩:=hrest
        · exact hbacked
        · cases hno
   rw [hmoves.held] at hbacked
   rw [hmoves.at_new,hbacked]
 · rintro (hno | hno)
   · cases hno
   · cases hno

lemma replaced_removed
 (happart:KeysApart item) (hstate:item.overwriteState=.evacuated)
 (hfinished:Finished kind item)
 (hremoves:Removes o (backupKey item) files after):
 ReplacedKept start after approved kind .cleanupOverwriteDestination item:=by
 refine ⟨?_,h.authorized,?_⟩
 · intro other hother
   obtain hat | ⟨hgiven,-⟩:=h.kept other hother
   · left
     rw [hremoves.elsewhere happart.backupDestination.symm]
     exact hat
   · right
     rw [hstate]
     exact ⟨hgiven,.inr ⟨rfl,hfinished,hremoves.at_name⟩⟩
 · rintro (hno | hno)
   · cases hno
   · cases hno

end

end VoVe.TransferEffects
