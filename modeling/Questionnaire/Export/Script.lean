/-! # The script of an exported form

Every exported page carries this script. In a browser it shows and hides questions, checks answers,
adds and removes instances of groups, and offers the indexed submission for download; it goes by the
same rules as the library, which it reads from the attributes of the questions' elements. -/

namespace Questionnaire.Export

/-- The script of an exported form, line by line. -/
def scriptLines : List String := [
  "(function (global) \x7b",
  "  \"use strict\";",
  "",
  "  var KEY = /^p(0|[1-9]\\d*)_s(0|[1-9]\\d*)_g(0|[1-9]\\d*)_q(0|[1-9]\\d*)_i(0|[1-9]\\d*)/;",
  "  var DETAIL = /^_opt(0|[1-9]\\d*)$/;",
  "  var NUMBER = /^[+-]?(\\d+\\.?\\d*|\\.\\d+)([eE][+-]?\\d+)?$/;",
  "  var BYTES_PER_MEGABYTE = 1024 * 1024;",
  "  var PLACEHOLDER = \"__INSTANCE__\";",
  "  var KEYED = [\"data-field-key\", \"data-error-for\", \"id\", \"name\", \"for\"];",
  "",
  "  function parseKey(key) \x7b",
  "    var match = KEY.exec(key || \"\");",
  "    if (!match) \x7b",
  "      return null;",
  "    \x7d",
  "    return \x7b",
  "      page: +match[1],",
  "      section: +match[2],",
  "      group: +match[3],",
  "      question: +match[4],",
  "      instance: +match[5],",
  "      rest: key.slice(match[0].length)",
  "    \x7d;",
  "  \x7d",
  "",
  "  function groupKeyOf(parsed) \x7b",
  "    return \"p\" + parsed.page + \"_s\" + parsed.section + \"_g\" + parsed.group;",
  "  \x7d",
  "",
  "  function fieldKey(parsed, instance) \x7b",
  "    return groupKeyOf(parsed) + \"_q\" + parsed.question + \"_i\" + instance;",
  "  \x7d",
  "",
  "  function absent(value) \x7b",
  "    return value === undefined || value === null;",
  "  \x7d",
  "",
  "  function isFile(answer) \x7b",
  "    return answer !== null && typeof answer === \"object\" && !Array.isArray(answer) &&",
  "      typeof answer.size === \"number\" && typeof answer.name === \"string\";",
  "  \x7d",
  "",
  "  function isPerPerson(answer) \x7b",
  "    return answer !== null && typeof answer === \"object\" && !Array.isArray(answer) && " ++
    "!isFile(answer);",
  "  \x7d",
  "",
  "  function truthy(answer) \x7b",
  "    if (absent(answer)) \x7b",
  "      return false;",
  "    \x7d",
  "    if (Array.isArray(answer)) \x7b",
  "      return answer.length > 0;",
  "    \x7d",
  "    if (isFile(answer)) \x7b",
  "      return true;",
  "    \x7d",
  "    if (isPerPerson(answer)) \x7b",
  "      return Object.keys(answer).length > 0;",
  "    \x7d",
  "    return String(answer) !== \"\";",
  "  \x7d",
  "",
  "  function scalar(answer) \x7b",
  "    if (isFile(answer)) \x7b",
  "      return answer.name;",
  "    \x7d",
  "    if (typeof answer === \"string\") \x7b",
  "      return answer;",
  "    \x7d",
  "    return undefined;",
  "  \x7d",
  "",
  "  // Same rule as the library's is_visible. `question` has the document's",
  "  // camelCase shape.",
  "  function isVisible(question, parentAnswer) \x7b",
  "    if (absent(question.parentQuestionId)) \x7b",
  "      return true;",
  "    \x7d",
  "    if (absent(parentAnswer)) \x7b",
  "      return false;",
  "    \x7d",
  "    var showWhen = question.showWhen;",
  "    if (absent(showWhen)) \x7b",
  "      return truthy(parentAnswer);",
  "    \x7d",
  "    if (!Array.isArray(showWhen)) \x7b",
  "      if (Array.isArray(parentAnswer)) \x7b",
  "        return parentAnswer.indexOf(showWhen) !== -1;",
  "      \x7d",
  "      return scalar(parentAnswer) === showWhen;",
  "    \x7d",
  "    if (Array.isArray(parentAnswer)) \x7b",
  "      return parentAnswer.some(function (value) \x7b",
  "        return showWhen.indexOf(value) !== -1;",
  "      \x7d);",
  "    \x7d",
  "    var value = scalar(parentAnswer);",
  "    return value !== undefined && showWhen.indexOf(value) !== -1;",
  "  \x7d",
  "",
  "  function isMissing(question, answer) \x7b",
  "    if (absent(answer)) \x7b",
  "      return true;",
  "    \x7d",
  "    if (typeof answer === \"string\") \x7b",
  "      return answer.trim() === \"\";",
  "    \x7d",
  "    if (Array.isArray(answer)) \x7b",
  "      return answer.length === 0;",
  "    \x7d",
  "    if (isFile(answer)) \x7b",
  "      return false;",
  "    \x7d",
  "    var roles = question.appliesTo || [];",
  "    if (question.answerType === \"radio_multi_person\" && roles.length) \x7b",
  "      return roles.some(function (role) \x7b",
  "        var choice = answer[role];",
  "        return absent(choice) || String(choice).trim() === \"\";",
  "      \x7d);",
  "    \x7d",
  "    return Object.keys(answer).length === 0;",
  "  \x7d",
  "",
  "  function fileAccepted(file, accept) \x7b",
  "    var name = file.name.toLowerCase();",
  "    var mime = (file.type || \"\").toLowerCase();",
  "    var entries = accept.split(\",\").map(function (entry) \x7b",
  "      return entry.trim().toLowerCase();",
  "    \x7d).filter(function (entry) \x7b",
  "      return entry !== \"\";",
  "    \x7d);",
  "    if (!entries.length) \x7b",
  "      return true;",
  "    \x7d",
  "    return entries.some(function (entry) \x7b",
  "      if (entry.charAt(0) === \".\") \x7b",
  "        return name.slice(-entry.length) === entry;",
  "      \x7d",
  "      if (entry.slice(-2) === \"/*\") \x7b",
  "        return mime !== \"\" && mime.split(\"/\")[0] === entry.slice(0, -2);",
  "      \x7d",
  "      return mime === entry;",
  "    \x7d);",
  "  \x7d",
  "",
  "  function parseNumber(text) \x7b",
  "    var trimmed = text.trim();",
  "    if (!NUMBER.test(trimmed)) \x7b",
  "      return undefined;",
  "    \x7d",
  "    var value = Number(trimmed);",
  "    return isFinite(value) ? value : undefined;",
  "  \x7d",
  "",
  "  // Same rule order and messages as the library's validate_answer.",
  "  function validateAnswer(question, answer) \x7b",
  "    if ((question.answerType || \"text\") === \"display_text\") \x7b",
  "      return null;",
  "    \x7d",
  "    var rules = question.validation;",
  "    function fail(message) \x7b",
  "      return rules && rules.errorMessage ? rules.errorMessage : message;",
  "    \x7d",
  "    if (question.required === true && isMissing(question, answer)) \x7b",
  "      return fail(\"This field is required\");",
  "    \x7d",
  "    if (absent(rules) || !truthy(answer)) \x7b",
  "      return null;",
  "    \x7d",
  "    if (isFile(answer)) \x7b",
  "      if (!absent(rules.accept) && !fileAccepted(answer, rules.accept)) \x7b",
  "        return fail(\"File type must be one of: \" + rules.accept);",
  "      \x7d",
  "      if (!absent(rules.maxSize) && answer.size > rules.maxSize * BYTES_PER_MEGABYTE) \x7b",
  "        return fail(\"File must be smaller than \" + rules.maxSize + \" MB\");",
  "      \x7d",
  "    \x7d",
  "    var length = typeof answer === \"string\" ? answer.length : Array.isArray(answer) ? " ++
    "answer.length : undefined;",
  "    if (length !== undefined) \x7b",
  "      if (!absent(rules.minLength) && length < rules.minLength) \x7b",
  "        return fail(\"Minimum length is \" + rules.minLength);",
  "      \x7d",
  "      if (!absent(rules.maxLength) && length > rules.maxLength) \x7b",
  "        return fail(\"Maximum length is \" + rules.maxLength);",
  "      \x7d",
  "    \x7d",
  "    if (typeof answer === \"string\") \x7b",
  "      var number = parseNumber(answer);",
  "      if (number !== undefined) \x7b",
  "        if (!absent(rules.min) && number < rules.min) \x7b",
  "          return fail(\"Value must be at least \" + rules.min);",
  "        \x7d",
  "        if (!absent(rules.max) && number > rules.max) \x7b",
  "          return fail(\"Value must be at most \" + rules.max);",
  "        \x7d",
  "      \x7d",
  "      if (rules.pattern) \x7b",
  "        var pattern = null;",
  "        try \x7b",
  "          pattern = new RegExp(rules.pattern);",
  "        \x7d catch (error) \x7b",
  "          console.warn(\"skipping validation pattern\", rules.pattern, error);",
  "        \x7d",
  "        if (pattern && !pattern.test(answer)) \x7b",
  "          return fail(\"Invalid format\");",
  "        \x7d",
  "      \x7d",
  "    \x7d",
  "    return null;",
  "  \x7d",
  "",
  "  // Moves a field or extension key to another instance; null for other values.",
  "  function rekeyValue(value, instance) \x7b",
  "    var parsed = parseKey(value);",
  "    return parsed ? fieldKey(parsed, instance) + parsed.rest : null;",
  "  \x7d",
  "",
  "  // Fills the instance placeholder of a keyed attribute; null leaves the",
  "  // attribute untouched.",
  "  function placeholderValue(name, value, instance) \x7b",
  "    if (absent(value) || value.indexOf(PLACEHOLDER) === -1) \x7b",
  "      return null;",
  "    \x7d",
  "    if (name !== \"data-instance\" && KEYED.indexOf(name) === -1) \x7b",
  "      return null;",
  "    \x7d",
  "    return value.split(PLACEHOLDER).join(String(instance));",
  "  \x7d",
  "",
  "  function toJson(answer) \x7b",
  "    return isFile(answer) ? answer.name : answer;",
  "  \x7d",
  "",
  "  function ensure(target, name) \x7b",
  "    if (!target[name] || typeof target[name] !== \"object\") \x7b",
  "      target[name] = \x7b\x7d;",
  "    \x7d",
  "    return target[name];",
  "  \x7d",
  "",
  "  // `entries` are \x7b key, answer \x7d pairs of visible questions: canonical field",
  "  // keys plus `_opt<n>` detail keys of chosen options.",
  "  function indexedSubmission(entries, totalPages, exportedAt) \x7b",
  "    var formData = \x7b\x7d;",
  "    entries.forEach(function (entry) \x7b",
  "      var key = parseKey(entry.key);",
  "      if (!key || !truthy(entry.answer)) \x7b",
  "        return;",
  "      \x7d",
  "      if (key.rest !== \"\" && !DETAIL.test(key.rest)) \x7b",
  "        return;",
  "      \x7d",
  "      var page = ensure(formData, \"page_\" + key.page);",
  "      var section = ensure(ensure(page, \"sections\"), \"section_\" + key.section);",
  "      var group = ensure(ensure(section, \"groups\"), \"group_\" + key.group);",
  "      var instance = ensure(ensure(group, \"instances\"), \"instance_\" + key.instance);",
  "      instance[\"question_\" + key.question + key.rest] = toJson(entry.answer);",
  "    \x7d);",
  "    return \x7b",
  "      formData: formData,",
  "      metadata: \x7b",
  "        exportedAt: exportedAt,",
  "        totalPages: totalPages",
  "      \x7d",
  "    \x7d;",
  "  \x7d",
  "",
  "  global.FormClone = \x7b",
  "    parseKey: parseKey,",
  "    isVisible: isVisible,",
  "    validateAnswer: validateAnswer,",
  "    rekeyValue: rekeyValue,",
  "    placeholderValue: placeholderValue,",
  "    indexedSubmission: indexedSubmission",
  "  \x7d;",
  "",
  "  var form = typeof document !== \"undefined\" ? document.getElementById(\"form-clone\") : " ++
    "null;",
  "  if (!form) \x7b",
  "    return;",
  "  \x7d",
  "  var fidelity = form.getAttribute(\"data-fidelity\") || \"generic_text\";",
  "  var totalPages = parseInt(form.getAttribute(\"data-total-pages\") || \"0\", 10);",
  "",
  "  function readJson(element, name) \x7b",
  "    var raw = element.getAttribute(name);",
  "    if (raw === null) \x7b",
  "      return undefined;",
  "    \x7d",
  "    try \x7b",
  "      return JSON.parse(raw);",
  "    \x7d catch (error) \x7b",
  "      return undefined;",
  "    \x7d",
  "  \x7d",
  "",
  "  function questionSpec(element) \x7b",
  "    return \x7b",
  "      answerType: element.getAttribute(\"data-type\") || \"text\",",
  "      required: element.getAttribute(\"data-required\") === \"true\",",
  "      parentQuestionId: element.getAttribute(\"data-parent-id\"),",
  "      showWhen: readJson(element, \"data-show-when\"),",
  "      validation: readJson(element, \"data-validation\"),",
  "      appliesTo: readJson(element, \"data-applies-to\")",
  "    \x7d;",
  "  \x7d",
  "",
  "  function questionElement(key) \x7b",
  "    var all = form.querySelectorAll(\".fc-question\");",
  "    for (var i = 0; i < all.length; i++) \x7b",
  "      if (all[i].getAttribute(\"data-field-key\") === key) \x7b",
  "        return all[i];",
  "      \x7d",
  "    \x7d",
  "    return null;",
  "  \x7d",
  "",
  "  function ownControls(element, selector) \x7b",
  "    var key = element.getAttribute(\"data-field-key\");",
  "    return Array.prototype.filter.call(element.querySelectorAll(selector), function " ++
    "(control) \x7b",
  "      var owner = control.closest(\".fc-question\");",
  "      return owner === element && control.getAttribute(\"name\") !== null &&",
  "        control.getAttribute(\"name\").indexOf(key) === 0 &&",
  "        !control.classList.contains(\"fc-option-detail\");",
  "    \x7d);",
  "  \x7d",
  "",
  "  function ownDetails(element) \x7b",
  "    return Array.prototype.filter.call(element.querySelectorAll(\".fc-option-detail\"), " ++
    "function (detail) \x7b",
  "      return detail.closest(\".fc-question\") === element;",
  "    \x7d);",
  "  \x7d",
  "",
  "  // Answer of one question element; undefined when nothing was entered.",
  "  function readAnswer(element) \x7b",
  "    if (!element) \x7b",
  "      return undefined;",
  "    \x7d",
  "    if (element.getAttribute(\"data-generic\") === \"true\") \x7b",
  "      var generic = ownControls(element, \"input\");",
  "      return generic.length && generic[0].value !== \"\" ? generic[0].value : undefined;",
  "    \x7d",
  "    var key = element.getAttribute(\"data-field-key\");",
  "    switch (element.getAttribute(\"data-type\")) \x7b",
  "      case \"display_text\":",
  "        return undefined;",
  "      case \"radio\": \x7b",
  "        var checked = ownControls(element, \"input[type=radio]\").filter(function (input) " ++
    "\x7b",
  "          return input.checked;",
  "        \x7d);",
  "        return checked.length ? checked[0].value : undefined;",
  "      \x7d",
  "      case \"checkbox\":",
  "        return ownControls(element, \"input[type=checkbox]\").filter(function (input) \x7b",
  "          return input.checked;",
  "        \x7d).map(function (input) \x7b",
  "          return input.value;",
  "        \x7d);",
  "      case \"radio_multi_person\": \x7b",
  "        var choices = \x7b\x7d;",
  "        var people = element.querySelectorAll(\".fc-person\");",
  "        for (var r = 0; r < people.length; r++) \x7b",
  "          var role = people[r].getAttribute(\"data-role\");",
  "          var picked = people[r].querySelector(\"input[name=\\\"\" + key + \":\" + r + " ++
    "\"\\\"]:checked\");",
  "          if (picked) \x7b",
  "            choices[role] = picked.value;",
  "          \x7d",
  "        \x7d",
  "        return Object.keys(choices).length ? choices : undefined;",
  "      \x7d",
  "      case \"file\": \x7b",
  "        var input = ownControls(element, \"input[type=file]\")[0];",
  "        var file = input && input.files && input.files[0];",
  "        return file ? \x7b name: file.name, size: file.size, type: file.type \x7d : " ++
    "undefined;",
  "      \x7d",
  "      default: \x7b",
  "        var control = ownControls(element, \"input, select, textarea\")[0];",
  "        return control && control.value !== \"\" ? control.value : undefined;",
  "      \x7d",
  "    \x7d",
  "  \x7d",
  "",
  "  function parentElement(element) \x7b",
  "    var parentId = element.getAttribute(\"data-parent-id\");",
  "    var own = parseKey(element.getAttribute(\"data-field-key\"));",
  "    var candidates = form.querySelectorAll(\".fc-question:not(.fc-subquestion)\");",
  "    for (var i = 0; i < candidates.length; i++) \x7b",
  "      if (candidates[i].getAttribute(\"data-question-id\") !== parentId) \x7b",
  "        continue;",
  "      \x7d",
  "      var parent = parseKey(candidates[i].getAttribute(\"data-field-key\"));",
  "      if (!parent || !own) \x7b",
  "        return null;",
  "      \x7d",
  "      var instance = groupKeyOf(parent) === groupKeyOf(own) ? own.instance : 0;",
  "      return questionElement(fieldKey(parent, instance));",
  "    \x7d",
  "    return undefined;",
  "  \x7d",
  "",
  "  function questionVisible(element) \x7b",
  "    if (element.getAttribute(\"data-parent-id\") === null) \x7b",
  "      return true;",
  "    \x7d",
  "    var parent = parentElement(element);",
  "    if (parent === undefined) \x7b",
  "      return true;",
  "    \x7d",
  "    return isVisible(questionSpec(element), parent ? readAnswer(parent) : undefined);",
  "  \x7d",
  "",
  "  function detailChosen(detail) \x7b",
  "    var answer = readAnswer(detail.closest(\".fc-question\"));",
  "    var wanted = detail.getAttribute(\"data-option-value\");",
  "    return Array.isArray(answer) ? answer.indexOf(wanted) !== -1 : answer === wanted;",
  "  \x7d",
  "",
  "  function topLevelQuestions() \x7b",
  "    return " ++
    "Array.prototype.slice.call(form.querySelectorAll(\".fc-question:not(.fc-subquestion)\"));",
  "  \x7d",
  "",
  "  function applyVisibility() \x7b",
  "    topLevelQuestions().forEach(function (element) \x7b",
  "      if (questionVisible(element)) \x7b",
  "        element.removeAttribute(\"hidden\");",
  "      \x7d else \x7b",
  "        element.setAttribute(\"hidden\", \"\");",
  "      \x7d",
  "    \x7d);",
  "    var details = form.querySelectorAll(\".fc-option-detail\");",
  "    for (var i = 0; i < details.length; i++) \x7b",
  "      if (detailChosen(details[i])) \x7b",
  "        details[i].removeAttribute(\"hidden\");",
  "      \x7d else \x7b",
  "        details[i].setAttribute(\"hidden\", \"\");",
  "      \x7d",
  "    \x7d",
  "  \x7d",
  "",
  "  function showError(element, message) \x7b",
  "    var key = element.getAttribute(\"data-field-key\");",
  "    var slots = element.querySelectorAll(\".fc-error\");",
  "    for (var i = 0; i < slots.length; i++) \x7b",
  "      if (slots[i].getAttribute(\"data-error-for\") !== key) \x7b",
  "        continue;",
  "      \x7d",
  "      slots[i].textContent = message || \"\";",
  "      if (message) \x7b",
  "        slots[i].removeAttribute(\"hidden\");",
  "      \x7d else \x7b",
  "        slots[i].setAttribute(\"hidden\", \"\");",
  "      \x7d",
  "    \x7d",
  "  \x7d",
  "",
  "  function validateForm() \x7b",
  "    var errors = \x7b\x7d;",
  "    topLevelQuestions().forEach(function (element) \x7b",
  "      var targets = " ++
    "[element].concat(Array.prototype.slice.call(element.querySelectorAll(\".fc-subquestion\")));",
  "      if (!questionVisible(element)) \x7b",
  "        targets.forEach(function (target) \x7b",
  "          showError(target, null);",
  "        \x7d);",
  "        return;",
  "      \x7d",
  "      targets.forEach(function (target) \x7b",
  "        var message = validateAnswer(questionSpec(target), readAnswer(target));",
  "        showError(target, message);",
  "        if (message) \x7b",
  "          errors[target.getAttribute(\"data-field-key\")] = message;",
  "        \x7d",
  "      \x7d);",
  "    \x7d);",
  "    return errors;",
  "  \x7d",
  "",
  "  function instancesOf(group) \x7b",
  "    var container = group.querySelector(\".fc-instances\");",
  "    return container ? Array.prototype.filter.call(container.children, function (child) " ++
    "\x7b",
  "      return child.classList.contains(\"fc-instance\");",
  "    \x7d) : [];",
  "  \x7d",
  "",
  "  function genericInstance(group, index) \x7b",
  "    var first = instancesOf(group)[0];",
  "    var instance = document.createElement(\"div\");",
  "    instance.className = \"fc-instance\";",
  "    instance.setAttribute(\"data-instance\", String(index));",
  "    instance.innerHTML = \"<div class=\\\"fc-instance-header\\\"><span " ++
    "class=\\\"fc-instance-number\\\"></span>\" +",
  "      \"<button type=\\\"button\\\" " ++
    "class=\\\"fc-remove-instance\\\">Remove</button></div>\";",
  "    var questions = first ? first.querySelectorAll(\".fc-question:not(.fc-subquestion)\") " ++
    ": [];",
  "    for (var i = 0; i < questions.length; i++) \x7b",
  "      var source = questions[i];",
  "      var parsed = parseKey(source.getAttribute(\"data-field-key\"));",
  "      if (!parsed) \x7b",
  "        continue;",
  "      \x7d",
  "      var key = fieldKey(parsed, index);",
  "      var element = document.createElement(\"div\");",
  "      element.className = \"fc-question\";",
  "      [\"data-question-id\", \"data-type\", \"data-required\", \"data-parent-id\", " ++
    "\"data-show-when\",",
  "        \"data-validation\", \"data-applies-to\"].forEach(function (name) \x7b",
  "        if (source.hasAttribute(name)) \x7b",
  "          element.setAttribute(name, source.getAttribute(name));",
  "        \x7d",
  "      \x7d);",
  "      element.setAttribute(\"data-field-key\", key);",
  "      var label = source.querySelector(\".fc-label, .fc-display\");",
  "      var display = source.getAttribute(\"data-type\") === \"display_text\";",
  "      var caption = document.createElement(display ? \"p\" : \"label\");",
  "      caption.className = display ? \"fc-display\" : \"fc-label\";",
  "      caption.textContent = label ? label.textContent : \"\";",
  "      element.appendChild(caption);",
  "      if (!display) \x7b",
  "        element.setAttribute(\"data-generic\", \"true\");",
  "        caption.setAttribute(\"for\", key);",
  "        var input = document.createElement(\"input\");",
  "        input.type = \"text\";",
  "        input.id = key;",
  "        input.name = key;",
  "        element.appendChild(input);",
  "        var error = document.createElement(\"div\");",
  "        error.className = \"fc-error\";",
  "        error.setAttribute(\"data-error-for\", key);",
  "        error.setAttribute(\"role\", \"alert\");",
  "        error.setAttribute(\"hidden\", \"\");",
  "        element.appendChild(error);",
  "      \x7d",
  "      instance.appendChild(element);",
  "    \x7d",
  "    return instance;",
  "  \x7d",
  "",
  "  function withDescendants(root) \x7b",
  "    return [root].concat(Array.prototype.slice.call(root.querySelectorAll(\"*\")));",
  "  \x7d",
  "",
  "  function templateInstance(group, index) \x7b",
  "    var template = group.querySelector(\"template[data-instance-template]\");",
  "    if (!template) \x7b",
  "      return genericInstance(group, index);",
  "    \x7d",
  "    var instance = template.content.cloneNode(true).querySelector(\".fc-instance\");",
  "    if (!instance) \x7b",
  "      return null;",
  "    \x7d",
  "    withDescendants(instance).forEach(function (node) \x7b",
  "      Array.prototype.slice.call(node.attributes).forEach(function (attribute) \x7b",
  "        var filled = placeholderValue(attribute.name, attribute.value, index);",
  "        if (filled !== null) \x7b",
  "          node.setAttribute(attribute.name, filled);",
  "        \x7d",
  "      \x7d);",
  "    \x7d);",
  "    return instance;",
  "  \x7d",
  "",
  "  function rekey(root, instance) \x7b",
  "    withDescendants(root).forEach(function (node) \x7b",
  "      KEYED.forEach(function (name) \x7b",
  "        var moved = rekeyValue(node.getAttribute(name), instance);",
  "        if (moved !== null) \x7b",
  "          node.setAttribute(name, moved);",
  "        \x7d",
  "      \x7d);",
  "    \x7d);",
  "    root.setAttribute(\"data-instance\", String(instance));",
  "  \x7d",
  "",
  "  function renumber(group) \x7b",
  "    instancesOf(group).forEach(function (instance, index) \x7b",
  "      var number = instance.querySelector(\".fc-instance-number\");",
  "      if (number) \x7b",
  "        number.textContent = String(index + 1);",
  "      \x7d",
  "    \x7d);",
  "  \x7d",
  "",
  "  function addInstance(group) \x7b",
  "    var index = instancesOf(group).length;",
  "    var instance = fidelity === \"template\" ? templateInstance(group, index) : " ++
    "genericInstance(group, index);",
  "    if (!instance) \x7b",
  "      return;",
  "    \x7d",
  "    group.querySelector(\".fc-instances\").appendChild(instance);",
  "    renumber(group);",
  "    applyVisibility();",
  "  \x7d",
  "",
  "  // Later instances move down one slot so keys stay contiguous.",
  "  function removeInstance(group, instance) \x7b",
  "    var instances = instancesOf(group);",
  "    var index = instances.indexOf(instance);",
  "    if (instances.length <= 1 || index === -1) \x7b",
  "      return;",
  "    \x7d",
  "    instance.parentNode.removeChild(instance);",
  "    for (var i = index + 1; i < instances.length; i++) \x7b",
  "      rekey(instances[i], i - 1);",
  "    \x7d",
  "    renumber(group);",
  "    applyVisibility();",
  "  \x7d",
  "",
  "  function isoNow() \x7b",
  "    return new Date().toISOString().replace(/\\.\\d\x7b3\x7dZ$/, \"Z\");",
  "  \x7d",
  "",
  "  function collectEntries() \x7b",
  "    var entries = [];",
  "    topLevelQuestions().forEach(function (element) \x7b",
  "      if (element.getAttribute(\"data-type\") === \"display_text\" || " ++
    "!questionVisible(element)) \x7b",
  "        return;",
  "      \x7d",
  "      entries.push(\x7b key: element.getAttribute(\"data-field-key\"), answer: " ++
    "readAnswer(element) \x7d);",
  "      ownDetails(element).forEach(function (detail) \x7b",
  "        if (detailChosen(detail) && detail.value !== \"\") \x7b",
  "          entries.push(\x7b key: detail.getAttribute(\"name\"), answer: detail.value " ++
    "\x7d);",
  "        \x7d",
  "      \x7d);",
  "    \x7d);",
  "    return entries;",
  "  \x7d",
  "",
  "  function download(submission) \x7b",
  "    var source = form.getAttribute(\"data-source\") || \"form\";",
  "    var blob = new Blob([JSON.stringify(submission, null, 2)], \x7b type: " ++
    "\"application/json\" \x7d);",
  "    var link = document.createElement(\"a\");",
  "    link.href = URL.createObjectURL(blob);",
  "    link.download = source.replace(/\\.[^.]*$/, \"\") + \"-submission.json\";",
  "    document.body.appendChild(link);",
  "    link.click();",
  "    document.body.removeChild(link);",
  "    URL.revokeObjectURL(link.href);",
  "  \x7d",
  "",
  "  form.addEventListener(\"input\", applyVisibility);",
  "  form.addEventListener(\"change\", applyVisibility);",
  "",
  "  form.addEventListener(\"click\", function (event) \x7b",
  "    var target = event.target;",
  "    if (!(target instanceof Element)) \x7b",
  "      return;",
  "    \x7d",
  "    var group = target.closest(\".fc-group\");",
  "    if (!group || group.getAttribute(\"data-repeatable\") !== \"true\") \x7b",
  "      return;",
  "    \x7d",
  "    if (target.classList.contains(\"fc-add-instance\")) \x7b",
  "      event.preventDefault();",
  "      addInstance(group);",
  "    \x7d else if (target.classList.contains(\"fc-remove-instance\")) \x7b",
  "      event.preventDefault();",
  "      removeInstance(group, target.closest(\".fc-instance\"));",
  "    \x7d",
  "  \x7d);",
  "",
  "  form.addEventListener(\"submit\", function (event) \x7b",
  "    event.preventDefault();",
  "    applyVisibility();",
  "    var errors = validateForm();",
  "    if (Object.keys(errors).length) \x7b",
  "      var first = questionElement(Object.keys(errors)[0]);",
  "      if (first && first.scrollIntoView) \x7b",
  "        first.scrollIntoView(\x7b block: \"center\" \x7d);",
  "      \x7d",
  "      return;",
  "    \x7d",
  "    var submission = indexedSubmission(collectEntries(), totalPages, isoNow());",
  "    form.dispatchEvent(new CustomEvent(\"formclone:submit\", \x7b detail: submission, " ++
    "bubbles: true \x7d));",
  "    download(submission);",
  "  \x7d);",
  "",
  "  applyVisibility();",
  "\x7d)(typeof globalThis !== \"undefined\" ? globalThis : this);"]

/-- The script of an exported form. -/
def script : String := "\n".intercalate scriptLines ++ "\n"

end Questionnaire.Export
