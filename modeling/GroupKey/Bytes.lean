/-!
Raw data. Names, values and files of an operating system are byte strings; text is what some of
them happen to spell.
-/

namespace GroupKey

/-- The bytes of a file, a stream, a path or the value of a variable, first to last. -/
abbrev Bytes := List UInt8

end GroupKey
