/-!
Strings of bytes, the content of files and of answers.
-/
namespace ReleaseBulletin

abbrev Bytes := List UInt8

end ReleaseBulletin
