/-!
# Text and bytes

Everything the shell reads, compares and prints is a sequence of Unicode characters; everything that
crosses the border to a stream is a sequence of bytes. Both are plain lists, so that the whole list
library applies to lines, words, paths and output alike.
-/

namespace LineShell

/-- A sequence of Unicode characters: a line, a word, a path, a message. -/
abbrev Text := List Char

/-- What a stream carries. -/
abbrev Bytes := List UInt8

end LineShell
