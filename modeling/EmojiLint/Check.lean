import EmojiLint.Diagnostic
import EmojiLint.Emoji.Occurrence
import EmojiLint.Ignore.Basic
import EmojiLint.Settings.Basic

/-!
# Checking one document

An emoji is reported when its first byte lies outside the ignored ranges.  No ignored range begins
or ends inside an emoji, so the first byte speaks for all of them.

A `Checker` reports documents one after the other under one set of settings and keeps what it
found until it is asked for it.
-/

set_option autoImplicit false

namespace EmojiLint

/-- The emoji of a text that are not ignored, in order. -/
def reportable (text : String) (language : String) (flags : Ignore.Flags) : List Span :=
  let ignored := Ignore.ignoredRanges text language flags
  (Emoji.find text).filter fun span => !ignored.contains span.start

/-- The diagnostics of one document. -/
def diagnose (settings : Settings) (file : Option String) (text language : String) : Findings :=
  (reportable text language settings.ignore).map fun span =>
    .ofRule .emojiDetected file span settings.severity

structure Checker where
  settings : Settings
  findings : Findings := []

namespace Checker

/-- Check one more document.  The number counts the emoji reported for it. -/
def check (checker : Checker) (file : Option String) (text language : String) : Nat × Checker :=
  let found := diagnose checker.settings file text language
  (found.length, { checker with findings := checker.findings ++ found })

/-- Hand over everything found so far. -/
def take (checker : Checker) : Findings × Checker :=
  (checker.findings, { checker with findings := [] })

end Checker
end EmojiLint
