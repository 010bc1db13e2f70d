/-!
# A template for settings

The settings file that `init` writes: every key with its default value and what it means.
-/

namespace FieldAudit.Command

/-- The lines of the template. -/
def templateLines : List String :=
  ["# lostfield configuration",
   "#",
   "# Every key is optional; the values below are the defaults.",
   "# Command-line flags override values from this file.",
   "",
   "# Check methods as well as plain functions.",
   "include_member_functions: true",
   "",
   "# Treat a call to `GetFoo()` on the source as handling field `Foo`.",
   "allow_getter_fallback: true",
   "",
   "# Allow a slice source to convert into a single struct",
   "# (e.g. []Event -> Summary).",
   "allow_aggregating_converters: false",
   "",
   "# Glob patterns for field names that never need to be mapped.",
   "exclude_field_patterns: []",
   "#  - \"CreatedAt\"",
   "#  - \"*ID\"",
   "",
   "# Glob patterns for function names that are never treated as converters.",
   "exclude_converter_patterns: []",
   "#  - \"Test*\"",
   "",
   "# Glob patterns for files to skip. Patterns without `/` match the base name;",
   "# `*/segment/*` matches any path containing `/segment/`.",
   "exclude_file_patterns: []",
   "#  - \"*_mock.go\"",
   "#  - \"*/internal/legacy/*\"",
   "",
   "# Minimum name similarity (0.0 - 1.0). 0 keeps plain substring matching",
   "# for type names and exact matching for field names.",
   "min_name_similarity: 0.0",
   "",
   "# Struct tags marking fields that need no mapping. Either a full entry",
   "# (`lostfield:\"ignore\"`) or just a tag key (`lostfield`).",
   "ignore_field_tags: []",
   "#  - 'lostfield:\"ignore\"'",
   "",
   "# Analyze files carrying a `Code generated ... DO NOT EDIT.` header.",
   "include_generated_files: false",
   "",
   "# Skip fields documented with a `Deprecated:` comment.",
   "ignore_deprecated_fields: false",
   "",
   "# Check unexported fields too.",
   "include_private_fields: false",
   "",
   "# Func, chan and unsafe.Pointer fields:",
   "#   ignore   - never report them",
   "#   adaptive - report only when both sides declare the field",
   "#   strict   - always report them",
   "non_serializable_fields: adaptive",
   "",
   "# Output format: default, pretty or json.",
   "output_format: default"]

/-- The text of the template. -/
def template : String := String.join (templateLines.map (· ++ "\n"))

end FieldAudit.Command
